import SqlTrees.Proofs.Rebuild.Reshaping
import SqlTrees.Proofs.Tree.Requalified

/-! # Renaming qualifiers

* `Pass.requalifyColumns_reshapes`: the pass renames the qualifier `t` and counts as it goes.
* `requalification_exact`: it makes this change, and no other.
* `every_dereference_is_counted`: it counts all dereferences, not only those that it changes.
-/

namespace SqlTrees
set_option autoImplicit false

/-! ## The pass -/

/-- What the pass does to its counter at a node. -/
def countDereference (count : Nat) (k : Kind) : Nat :=
  if k = .dereference then count + 1 else count

theorem foldl_countDereference (ks : List Kind) (count : Nat) :
    ks.foldl countDereference count = count + ks.count .dereference := by
  induction ks generalizing count with
  | nil => rfl
  | cons k ks ih =>
    rw [List.foldl_cons, ih, countDereference, List.count_cons]
    by_cases hk : k = .dereference
    · rw [if_pos hk, if_pos (beq_iff_eq.2 hk)]
      omega
    · rw [if_neg hk, if_neg (by simpa using hk), Nat.add_zero]

namespace Pass

/-- The rule of a dereference: its base is renamed, and then not visited, or it is rebuilt. -/
theorem requalifyColumns_dereference (base : Expression) (field : Ident)
    (ih : Walk.ComesBy countDereference (base.visit requalifyColumns) base.kinds
      (base.cleared.reshaped .requalifying)) :
    Walk.ComesBy countDereference
      (do
        Walk.update (· + 1)
        let base ←
          if Expression.isIdentifier "t" base then pure (Expression.identifier "u")
          else base.visit requalifyColumns
        return Expression.dereference base field)
      (.dereference :: base.kinds)
      (Expression.dereference
        (Expression.requalifier (base.cleared.reshaped .requalifying)) field) := by
  have same : Expression.isIdentifier "t" (base.cleared.reshaped .requalifying) =
      Expression.isIdentifier "t" base := by
    rw [Expression.isIdentifier_requalified, Expression.isIdentifier_cleared]
  have counted : Walk.ComesBy countDereference (Walk.update (· + 1)) [.dereference] () :=
    .update (k := .dereference) (by decide)
  refine counted.bind ?_
  cases h : Expression.isIdentifier "t" base with
  | true =>
    obtain ⟨value, delimited, location, rfl⟩ :=
      Expression.eq_identifier_of_kind (Expression.kind_of_isIdentifier h)
    rw [if_pos rfl, pure_bind, Expression.requalifier_of_isIdentifier (same.trans h)]
    -- the base is not visited, but an identifier would neither fail nor be counted
    exact (Walk.ComesBy.pure _).past (by decide) fun _ => rfl
  | false =>
    rw [if_neg (by decide), Expression.requalifier_of_not_isIdentifier (same.trans h)]
    exact ih.map fun base => Expression.dereference base field

theorem requalifyColumns_reshapes :
    requalifyColumns.Reshapes .dereference .requalifying countDereference where
  direct := ⟨fun _ => rfl, rfl, rfl⟩
  unsupported := rfl
  preVisit _ := rfl
  postVisit _ := rfl
  standard k hk := by cases k <;> first | rfl | exact absurd rfl hk
  only := Reshape.requalifying_changesOnly
  still k hk _ := if_neg hk
  inner := by decide
  own fields ih := by
    match fields, ih with
    | .cons (.child base) (.cons (.atom field) (.cons (.atom location) .nil)), ih =>
      have visit := ih.map fun | .cons (.child base) _ => base
      simp only [Record.attach, Record.rebuilt, Record.traverse, Field.attach, Field.traverse,
        bind_assoc, pure_bind, bind_pure, Record.kinds, Field.kinds, List.append_nil] at visit ⊢
      exact requalifyColumns_dereference base field visit

theorem requalifyColumns_context (n : Node) (count : Nat) :
    ((requalifyColumns.rebuild n).start count).2.context =
      count + (n.tree.kinds.takeWhile (· ∉ Kind.unruled)).count .dereference := by
  rw [requalifyColumns_reshapes.context_eq, foldl_countDereference]

/-- Where the identity pass succeeds, its own result is rebuilt with `u` for `t` as it stands. -/
theorem requalifyColumns_requalified {n i : Node} (hi : identity.result () n = .ok i)
    (count : Nat) : requalifyColumns.result count i.requalified = .ok i.requalified := by
  have stays := identity_reshaped Reshape.requalifying_changesOnly
    Reshape.requalifying_ignoresLocations Reshape.kinds_requalifying (List.forall_mem_nil _) hi
  exact requalifyColumns_reshapes.result_reshaped count Reshape.requalifying_composes stays

end Pass

/-- The pass succeeds and fails with the identity pass, and its result is the tree of the identity
pass with `u` for the qualifier `t` of every column reference. In this tree no reference to `t` is
left at any depth, every table and every identifier that qualifies nothing is where it was, and a
second run returns it as it stands. -/
theorem requalification_exact (n : Node) (count : Nat) :
    Pass.requalifyColumns.result count n =
      (Pass.identity.result () n).map Node.requalified ∧
    ∀ i, Pass.identity.result () n = .ok i →
      (∀ x ∈ i.requalified.tree.nodes, x.qualifiedBy "t" = false) ∧
      i.requalified.tree.situated.filter Situated.isBareName =
        i.tree.situated.filter Situated.isBareName ∧
      ∀ again, Pass.requalifyColumns.result again i.requalified = .ok i.requalified := by
  refine ⟨Pass.requalifyColumns_reshapes.result_eq count n, fun i hi => ⟨?_, ?_, ?_⟩⟩
  · exact i.tree.qualifiedBy_requalified
  · exact i.tree.filter_bareNames_requalified
  · exact Pass.requalifyColumns_requalified hi

/-- In `t.a = t`, where `t` is delimited both times, only the qualifier is renamed. -/
theorem requalified_beside_bare_name :
    let compared (base : Expression) : Node :=
      ⟨Expression.comparison .equal (.dereference base (.plain "a"))
        (.identifier "t" true (some ⟨1, 7⟩)), rfl⟩
    let n := compared (.identifier "t" true (some ⟨1, 1⟩))
    Pass.identity.result () n = .ok n ∧
      Pass.requalifyColumns.result 0 n = .ok (compared (.identifier "u")) ∧
      Pass.requalifyColumns.result 1 (compared (.identifier "u")) =
        .ok (compared (.identifier "u")) := by
  intro compared n
  have hi : Pass.identity.result () n = .ok n := rfl
  obtain ⟨first, exact⟩ := requalification_exact n 0
  refine ⟨hi, ?_, (exact n hi).2.2 1⟩
  rw [first, hi]
  rfl

/-! ## What is counted -/

theorem Tree.count_dereference {c : Category} (t : Tree c) :
    t.kinds.count .dereference = t.nodes.countP (·.kind = .dereference) := by
  rw [← t.map_kind_nodes, List.count, List.countP_map]
  rfl

/-- All dereferences are qualified by a name exactly if there are as many as are. -/
theorem Tree.count_dereference_eq_iff {c : Category} (t : Tree c) (name : String) :
    t.kinds.count .dereference = t.nodes.countP (Occurrence.qualifiedBy name) ↔
      ∀ x ∈ t.nodes, x.kind = .dereference → x.qualifiedBy name = true := by
  have among : t.nodes.countP (Occurrence.qualifiedBy name) =
      (t.nodes.filter (·.kind = .dereference)).countP (Occurrence.qualifiedBy name) := by
    rw [List.countP_filter]
    refine List.countP_congr fun x _ => ?_
    have own := @Occurrence.kind_of_qualifiedBy x name
    simpa using own
  rw [t.count_dereference, List.countP_eq_length_filter, among, eq_comm, List.countP_eq_length]
  simp only [List.mem_filter, decide_eq_true_eq, and_imp]

/-- Every dereference that the pass comes by is counted, up to the node that fails it if one does.
So the count of a successful run is that of all dereferences of the tree, and it is the number of
references that were qualified by `t` exactly if there are no others. -/
theorem every_dereference_is_counted (n : Node) (count : Nat) :
    let run := (Pass.requalifyColumns.rebuild n).start count
    run.2.context = count + (n.tree.kinds.takeWhile (· ∉ Kind.unruled)).count .dereference ∧
    ∀ m, run.1 = .ok m →
      run.2.context - count = n.tree.kinds.count .dereference ∧
      (run.2.context - count = n.tree.nodes.countP (Occurrence.qualifiedBy "t") ↔
        ∀ x ∈ n.tree.nodes, x.kind = .dereference → x.qualifiedBy "t" = true) := by
  intro run
  have context := Pass.requalifyColumns_context n count
  refine ⟨context, fun m hm => ?_⟩
  have result := (Pass.requalifyColumns_reshapes.result_eq count n).symm.trans hm
  have ruled : ∀ k ∈ n.tree.kinds, decide (k ∉ Kind.unruled) = true := by
    simpa using (Pass.ruled_of_identity_map result).1
  have counted : run.2.context - count = n.tree.kinds.count .dereference := by
    rw [context, List.takeWhile_eq_self_iff.2 ruled, Nat.add_sub_cancel_left]
  exact ⟨counted, counted ▸ n.tree.count_dereference_eq_iff "t"⟩

/-- In `t.a = t.b` both references are renamed and counted. -/
theorem both_columns_counted :
    let reference (qualifier field : String) : Expression :=
      .dereference (.identifier qualifier) (.plain field)
    let n : Node := ⟨Expression.comparison .equal (reference "t" "a") (reference "t" "b"), rfl⟩
    let m : Node := ⟨Expression.comparison .equal (reference "u" "a") (reference "u" "b"), rfl⟩
    let run := (Pass.requalifyColumns.rebuild n).start 5
    run.1 = .ok m ∧ run.2.context - 5 = n.tree.nodes.countP (Occurrence.qualifiedBy "t") := by
  intro reference n m run
  have hm : run.1 = .ok m := rfl
  have all : ∀ x ∈ n.tree.nodes, x.kind = .dereference → x.qualifiedBy "t" = true := by
    have listed : n.tree.nodes.all (fun x => x.kind ≠ .dereference || x.qualifiedBy "t") = true := rfl
    simpa [imp_iff_not_or] using listed
  obtain ⟨-, counted⟩ := every_dereference_is_counted n 5
  exact ⟨hm, (counted m hm).2.2 all⟩

/-- `x.a` stays as it is and is counted all the same. -/
theorem other_qualifier_counted :
    let n : Node := ⟨Expression.dereference (.identifier "x") (.plain "a"), rfl⟩
    let run := (Pass.requalifyColumns.rebuild n).start 0
    run.1 = .ok n ∧ run.2.context - 0 = 1 ∧
      n.tree.nodes.countP (Occurrence.qualifiedBy "t") = 0 :=
  ⟨rfl, rfl, rfl⟩

end SqlTrees
