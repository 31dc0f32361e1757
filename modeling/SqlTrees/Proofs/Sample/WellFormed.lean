import SqlTrees.Proofs.Sample.Supported
import SqlTrees.Proofs.Tree.Replaced

/-! # Drawn trees are well formed, and so are their rebuilt forms

* `Node.WellFormed`: every node of a tree is well formed.
* `Occurrence.wellFormed_cleared`: whether a node is well formed does not depend on locations, its
  own or those below it.
* `Node.wellFormed_cleared_iff`: so it is with a tree and all of its nodes.
* `drawn_trees_well_formed`: the trees drawn at any depth are, and so is what the pass makes of them.
-/

namespace SqlTrees
set_option autoImplicit false

/-- Every node of the tree is well formed. -/
def Node.WellFormed (n : Node) : Prop :=
  ∀ x ∈ n.tree.nodes, x.wellFormed = true

/-! ## What clearing leaves of a field -/

namespace Field

theorem toOption_cleared {τ : FieldType} (f : Field Tree (.option τ)) :
    f.cleared.toOption = f.toOption.map cleared := by
  cases f <;> rfl

theorem toList_cleared {τ : FieldType} (f : Field Tree τ) :
    f.cleared.toList = f.toList.map cleared := by
  induction f with
  | cons f fs _ ih => rw [cleared, toList, ih, toList, List.map_cons]
  | _ => rfl

theorem subject_cleared {c : Category} (f : Field Tree (.child c)) :
    f.cleared.subject = f.subject.cleared := by
  cases f
  rfl

theorem children_cleared {c : Category} (f : Field Tree (.list (.child c))) :
    f.cleared.children = f.children.map Tree.cleared := by
  rw [children, toList_cleared, children, List.map_map, List.map_map]
  exact List.map_congr_left fun f _ => f.subject_cleared

theorem named_cleared {τ : FieldType} (f : Field Tree τ) : f.cleared.named = f.named := by
  induction f with
  | some f ih => rw [cleared, named, ih, named]
  | cons f fs ihf ihfs => rw [cleared, named, ihf, ihfs, named]
  | _ => rfl

theorem named_unlocated : {τ : FieldType} → (f : Field Tree τ) → f.unlocated.named = f.named
  | .atom a, .atom v => by cases a <;> rfl
  | .child _, _ => rfl
  | .option _, _ => rfl
  | .list _, _ => rfl

end Field

namespace Record
variable {s : Signature}

theorem named_cleared (r : Record Tree s) : r.cleared.named = r.named := by
  induction r with
  | nil => rfl
  | cons f r ih => rw [cleared, named, f.named_cleared, ih, named]

theorem named_unlocated (r : Record Tree s) : r.unlocated.named = r.named := by
  induction r with
  | nil => rfl
  | cons f r ih => rw [unlocated, named, f.named_unlocated, ih, named]

end Record

/-! ## Well-formed nodes -/

theorem Expression.isColumn_cleared (e : Expression) :
    Expression.isColumn e.cleared = Expression.isColumn e := by
  match e with
  | .node k isA fields =>
    cases k
    case dereference =>
      match fields with
      | .cons (.child base) _ =>
        exact congrArg (fun k => decide (k = Kind.identifier)) base.kind_cleared
    all_goals rfl

namespace Kind

/-- None of the conditions is on a location. -/
theorem consistent_cleared (k : Kind) (fields : Record Tree k.signature) :
    k.consistent (Occurrence.cleared ⟨k, fields⟩).fields = k.consistent fields := by
  cases k
  -- a condition reads how many children there are, or the kind of one, and clearing keeps both
  case join =>
    match fields with
    | .cons (.atom type) <| .cons _ <| .cons _ <| .cons criteria _ =>
      have same : criteria.cleared.toOption.isNone = criteria.toOption.isNone := by
        rw [criteria.toOption_cleared, Option.isNone_map]
      exact congrArg (· == (decide (type = .cross) || decide (type = .implicit))) same
  case frameBound =>
    match fields with
    | .cons (.atom form) <| .cons value _ =>
      have same : value.cleared.toOption.isSome = value.toOption.isSome := by
        rw [value.toOption_cleared, Option.isSome_map]
      exact congrArg (· == (decide (form = .preceding) || decide (form = .following))) same
  case union | intersect =>
    match fields with
    | .cons relations _ =>
      have same : relations.cleared.toList.length = relations.toList.length := by
        rw [relations.toList_cleared, List.length_map]
      exact congrArg (fun n => decide (n = 2) || decide (n = 3)) same
  case inPredicate =>
    match fields with
    | .cons _ <| .cons (.child list) _ =>
      exact congrArg (fun k => decide (k = Kind.inList)) list.kind_cleared
  case existsPredicate =>
    match fields with
    | .cons (.child inner) _ =>
      exact congrArg (fun k => decide (k = Kind.subqueryExpression)) inner.kind_cleared
  case quantifiedComparison =>
    match fields with
    | .cons _ <| .cons _ <| .cons _ <| .cons (.child inner) _ =>
      exact congrArg (fun k => decide (k = Kind.subqueryExpression)) inner.kind_cleared
  case delete =>
    match fields with
    | .cons (.child relation) _ =>
      exact congrArg (fun k => decide (k = Kind.table)) relation.kind_cleared
  case groupingOperation =>
    match fields with
    | .cons columns _ =>
      change columns.cleared.children.all Expression.isColumn = _
      rw [columns.children_cleared, List.all_map]
      exact congrArg columns.children.all (funext Expression.isColumn_cleared)
  all_goals rfl

end Kind

namespace Occurrence

theorem named_cleared (x : Occurrence) : x.cleared.fields.named = x.fields.named := by
  obtain ⟨k, fields⟩ := x
  rw [cleared]
  by_cases leaf : k ∈ Kind.leaves
  · rw [if_pos leaf, fields.named_cleared]
  · rw [if_neg leaf, Record.named_unlocated, fields.named_cleared]

theorem wellFormed_cleared (x : Occurrence) : x.cleared.wellFormed = x.wellFormed := by
  have consistent : x.cleared.kind.consistent x.cleared.fields = x.kind.consistent x.fields :=
    x.kind.consistent_cleared x.fields
  rw [wellFormed, consistent, x.named_cleared, wellFormed]

end Occurrence

/-! ## Well-formed trees -/

theorem Node.wellFormed_cleared_iff (n : Node) : n.cleared.WellFormed ↔ n.WellFormed := by
  have nodes : n.cleared.tree.nodes = n.tree.nodes.map Occurrence.cleared := n.tree.nodes_cleared
  rw [WellFormed, nodes, List.forall_mem_map]
  simp only [Occurrence.wellFormed_cleared, WellFormed]

/-- The tree is well formed, the identity pass succeeds on it, and what it hands back is well
formed too. -/
def Node.StaysWellFormed (n : Node) : Prop :=
  n.WellFormed ∧ ∃ m, ((Pass.identity.rebuild n).start ()).1 = .ok m ∧ m.WellFormed

theorem Tree.Fits.staysWellFormed {h : Nat} {n : Node} (hn : n.tree.Fits h) :
    n.StaysWellFormed := by
  have own : n.WellFormed := fun x hx => (hn.proper x hx).2
  exact ⟨own, n.cleared, (Pass.identity_eq_ok_iff n _).2 ⟨hn.ruled, rfl⟩,
    n.wellFormed_cleared_iff.2 own⟩

/-- Whatever the tape and the depth: in the trees drawn, and in what the identity pass makes of them,
a join has no criteria exactly if it is a cross join or a comma join, a frame bound has a value
exactly if its form counts rows, unions and intersections are of two relations or three, the list of
an `IN`, the subqueries of `EXISTS` and of a quantified comparison and the table of a `DELETE` are
what they are called, grouping operations are on columns, and every name has one part to three. -/
theorem drawn_trees_well_formed (tape : Tape) :
    (∀ depth, let g := Generators.atDepth depth
      Node.StaysWellFormed { tree := (g.expression tape).1 } ∧
      Node.StaysWellFormed { tree := (g.relation tape).1 } ∧
      Node.StaysWellFormed { tree := (g.query tape).1 } ∧
      Node.StaysWellFormed { tree := (g.statement tape).1 }) ∧
    ∀ size, Node.StaysWellFormed (Gen.tree size tape).1 := by
  refine ⟨fun depth => ?_, fun size => ?_⟩
  · have hg := Generators.atDepth_within depth
    exact ⟨(hg.expression tape).staysWellFormed, (hg.relation tape).staysWellFormed,
      (hg.query tape).staysWellFormed, (hg.statement tape).staysWellFormed⟩
  · exact (Gen.tree_always size tape).1.staysWellFormed

end SqlTrees
