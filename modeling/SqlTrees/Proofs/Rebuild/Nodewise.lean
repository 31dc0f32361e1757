import SqlTrees.Proofs.Rebuild.Tour
import SqlTrees.Proofs.Tree.Substituted

/-! # Traversals node by node

A pass whose own rules never rebuild a child comes by the nodes one after the other.

* `Pass.meet`: what such a pass does when it comes by a node.
* `Pass.Nodewise`: the passes in question, with what their rules put in the place of a node.
* `Tree.visit_eq_forM_meet`: a visit meets the nodes in the order of `Tree.nodes`, and gives the
  tree with these nodes replaced.
* `Pass.forM_meet_of_not_stopsAt`: nodes that the standard rules rebuild are reported, no more.
-/

namespace SqlTrees
set_option autoImplicit false

section
variable {σ ε : Type}

/-! ## Coming by a node -/

/-- Whether the pass has a rule of its own for a kind, or nobody has a rule for it. -/
def Pass.stopsAt (P : Pass σ ε) (k : Kind) : Bool :=
  (P.rule? k).isSome || k ∈ Kind.unruled

theorem Pass.rule_eq_standard {P : Pass σ ε} {k : Kind} (hk : P.stopsAt k = false) :
    P.rule k = P.standardRule k ∧ k ∉ Kind.unruled := by
  rw [Pass.stopsAt, Bool.or_eq_false_iff, Option.isSome_eq_false_iff, Option.isNone_iff_eq_none,
    decide_eq_false_iff_not] at hk
  rw [Pass.rule, hk.1, Option.getD_none]
  exact ⟨rfl, hk.2⟩

/-- What a pass does when it comes by a node: it reports the node, and is stopped there or not. -/
def Pass.meet (P : Pass σ ε) (x : Occurrence) : Walk σ ε Unit := do
  Walk.report (.rebuildingNode x.kind)
  if P.stopsAt x.kind then
    let _ ← P.rule x.kind (x.fields.attach P)

/-! ## A visit meets the nodes in their order -/

/-- The pass has no hooks and replaces no dispatcher. Where one of its own rules succeeds, there was
nothing to meet below the node, and the rule has put there what `new?` has for the node. -/
structure Pass.Nodewise (P : Pass σ ε) (new? : Replacement ε) : Prop where
  direct : P.Direct
  preVisit : ∀ k, P.preVisit k = pure ()
  postVisit : ∀ k, P.postVisit k = pure ()
  kept : ∀ k, P.stopsAt k = false → new? k = none
  rule : ∀ k, P.stopsAt k = true → ∀ fields : Record Tree k.signature,
    P.rule k (fields.attach P) = (do
      let _ ← P.rule k (fields.attach P)
      forM fields.nodes P.meet
      return (Tree.ofFields k fields).substituted new?)

variable {P : Pass σ ε} {new? : Replacement ε}

theorem Pass.Nodewise.visited_eq_forM_meet (h : P.Nodewise new?) (k : Kind)
    (fields : Record Tree k.signature)
    (ih : (fields.attach P).rebuilt =
      (do forM fields.nodes P.meet; return fields.substituted new?)) :
    P.visited k (P.rule k (fields.attach P)) = (do
      forM (Tree.ofFields k fields).nodes P.meet
      return (Tree.ofFields k fields).substituted new?) := by
  rw [Pass.visited, h.preVisit, h.postVisit, Tree.nodes, List.forM_cons, Pass.meet]
  simp only [pure_bind, bind_pure]
  cases hk : P.stopsAt k with
  | true =>
    -- the nodes below were not visited: `Nodewise.rule` says that nothing is lost by it
    simp only [if_true, bind_assoc, pure_bind]
    congr 1
    funext _
    exact h.rule k hk fields
  | false =>
    obtain ⟨hr, hu⟩ := Pass.rule_eq_standard hk
    rw [hr, Tree.substituted_node, Replacement.put_of_none (h.kept k hk)]
    by_cases hl : k ∈ Kind.leaves
    · have hc := Kind.childless_of_mem_leaves hl
      rw [P.standardRule_leaf hl, if_pos hl, fields.nodes_of_childless hc,
        fields.substituted_of_childless hc, Record.before_attach]
      simp
    · rw [P.standardRule_composite hl hu, ih, if_neg hl]
      simp

mutual

theorem Tree.visit_eq_forM_meet (h : P.Nodewise new?) : {c : Category} → (t : Tree c) →
    t.visit P = (do forM t.nodes P.meet; return t.substituted new?)
  | _, .node k rfl fields => by
    have ih := fields.rebuilt_eq_forM_meet h
    rw [Tree.visit_node, h.visited_eq_forM_meet k fields ih]
  | _, .inclusion i t => by
    have ih := t.visit_eq_forM_meet h
    rw [Tree.visit, h.direct.dispatch_eq, ite_self, ih, Tree.nodes, Tree.substituted, bind_assoc]
    simp only [pure_bind]

theorem Record.rebuilt_eq_forM_meet (h : P.Nodewise new?) : {s : Signature} → (r : Record Tree s) →
    (r.attach P).rebuilt = (do forM r.nodes P.meet; return r.substituted new?)
  | _, .nil => rfl
  | _, .cons f r => by
    have ihf := f.traverse_eq_forM_meet h
    have ih := r.rebuilt_eq_forM_meet h
    rw [Record.rebuilt] at ih ⊢
    rw [Record.attach, Record.traverse, ihf, ih, Record.nodes, Record.substituted,
      List.forM_append]
    simp only [bind_assoc, pure_bind]

theorem Field.traverse_eq_forM_meet (h : P.Nodewise new?) : {τ : FieldType} → (f : Field Tree τ) →
    (f.attach P).traverse Child.rebuilt = (do forM f.nodes P.meet; return f.substituted new?)
  | _, .atom _ => rfl
  | _, .child t => by
    have ih := t.visit_eq_forM_meet h
    rw [Field.attach, Field.traverse, h.direct.dispatch_eq, ih, Field.nodes, Field.substituted,
      bind_assoc]
    simp only [pure_bind]
  | _, .none => rfl
  | _, .some f => by
    have ih := f.traverse_eq_forM_meet h
    rw [Field.attach, Field.traverse, ih, Field.nodes, Field.substituted, bind_assoc]
    simp only [pure_bind]
  | _, .nil => rfl
  | _, .cons f fs => by
    have ihf := f.traverse_eq_forM_meet h
    have ih := fs.traverse_eq_forM_meet h
    rw [Field.attach, Field.traverse, ihf, ih, Field.nodes, Field.substituted, List.forM_append]
    simp only [bind_assoc, pure_bind]

end

/-! ## Rebuilding -/

/-- Where a traversal of a tree starts. -/
def Progress.atRoot (context : σ) (n : Node) : Progress σ :=
  ⟨context, #[.rebuildingTree n.kind]⟩

theorem Pass.Nodewise.rebuild_start (h : P.Nodewise new?) (n : Node) (context : σ) :
    (P.rebuild n).start context =
      match forM n.tree.nodes P.meet (Progress.atRoot context n) with
      | (.ok _, p) => (.ok (n.substituted new?), p)
      | (.error e, p) => (.error e, p) := by
  rw [h.direct.rebuild_start, n.tree.visit_eq_forM_meet h, Walk.bind_apply, Progress.atRoot]
  rcases forM n.tree.nodes P.meet ⟨context, #[.rebuildingTree n.kind]⟩ with ⟨e | _, p⟩ <;> rfl

/-! ## Nodes with a standard rule -/

/-- The progress after each node of a list has been reported. -/
def Progress.reported (p : Progress σ) (xs : List Occurrence) : Progress σ :=
  { p with events := p.events ++ (xs.map fun x => Event.rebuildingNode x.kind).toArray }

theorem Progress.reported_nil (p : Progress σ) : p.reported [] = p := by
  rw [reported, List.map_nil, Array.append_empty]

theorem Progress.reported_append (p : Progress σ) (xs ys : List Occurrence) :
    p.reported (xs ++ ys) = (p.reported xs).reported ys := by
  simp only [reported, List.map_append, Array.append_assoc, List.append_toArray]

theorem Progress.reported_cons (p : Progress σ) (x : Occurrence) (xs : List Occurrence) :
    p.reported (x :: xs) = (p.reported [x]).reported xs := by
  rw [← reported_append, List.singleton_append]

theorem Progress.reported_singleton (p : Progress σ) (x : Occurrence) :
    p.reported [x] = { p with events := p.events.push (.rebuildingNode x.kind) } := by
  simp [reported]

theorem Pass.meet_of_not_stopsAt {x : Occurrence} (hx : P.stopsAt x.kind = false)
    (p : Progress σ) : P.meet x p = (.ok (), p.reported [x]) := by
  rw [Pass.meet, Walk.bind_apply, Walk.report_apply, hx]
  rfl

theorem Pass.forM_meet_of_not_stopsAt {xs : List Occurrence}
    (hxs : ∀ x ∈ xs, P.stopsAt x.kind = false) (p : Progress σ) :
    forM xs P.meet p = (.ok (), p.reported xs) := by
  induction xs generalizing p with
  | nil =>
    rw [p.reported_nil]
    rfl
  | cons x xs ih =>
    rw [List.forall_mem_cons] at hxs
    rw [List.forM_cons, Walk.bind_apply, Pass.meet_of_not_stopsAt hxs.1,
      p.reported_cons x xs]
    exact ih hxs.2 _

end
end SqlTrees
