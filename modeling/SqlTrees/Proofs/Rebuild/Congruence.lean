import SqlTrees.Proofs.Rebuild.Accounting
import SqlTrees.Proofs.Tree.Normal

/-! # Structural equality and the standard rules

* `Tree.tour_normal`: a traversal does not come by anything that a normal form lacks.
* `AlikeOutcomes`: like trees, or the same failure.
* `Pass.Standard.start_of_alike`: whatever its hooks do, a pass without rules of its own does the
  same on like trees.
* `alike_congruence`: structural equality is equality of normal forms, and the identity pass and the
  counting pass respect it.
-/

namespace SqlTrees
set_option autoImplicit false

mutual

theorem Tree.tour_normal : {c : Category} → (t : Tree c) → t.normal.tour = t.tour
  | _, .node k _ fields => by rw [Tree.normal, Tree.tour, fields.tour_normal, Tree.tour]
  | _, .inclusion _ t => by rw [Tree.normal, Tree.tour, t.tour_normal, Tree.tour]

theorem Record.tour_normal : {s : Signature} → (r : Record Tree s) → r.normal.tour = r.tour
  | _, .nil => rfl
  | _, .cons f r => by
    rw [Record.normal, Record.tour, f.tour_normal, r.tour_normal, Record.tour]

theorem Field.tour_normal : {τ : FieldType} → (f : Field Tree τ) → f.normal.tour = f.tour
  | .atom _, .atom _ => rfl
  | _, .child t => by rw [Field.normal, Field.tour, t.tour_normal, Field.tour]
  | _, .none => rfl
  | _, .some f => by rw [Field.normal, Field.tour, f.tour_normal, Field.tour]
  | _, .nil => rfl
  | _, .cons f fs => by
    rw [Field.normal, Field.tour, f.tour_normal, fs.tour_normal, Field.tour]

end

theorem Tree.kind_normal : {c : Category} → (t : Tree c) → t.normal.kind = t.kind
  | _, .node _ _ _ => rfl
  | _, .inclusion _ t => by rw [Tree.normal, Tree.kind, t.kind_normal, Tree.kind]

variable {σ ε : Type} {n m : Node}

theorem Node.tour_of_alike (h : n.alike m = true) : n.tree.tour = m.tree.tour := by
  have tours : n.normal.tree.tour = m.normal.tree.tour := by rw [(n.alike_iff m).mp h]
  calc n.tree.tour = n.normal.tree.tour := n.tree.tour_normal.symm
    _ = m.normal.tree.tour := tours
    _ = m.tree.tour := m.tree.tour_normal

theorem Node.kind_of_alike (h : n.alike m = true) : n.kind = m.kind := by
  have kinds : n.normal.kind = m.normal.kind := by rw [(n.alike_iff m).mp h]
  calc n.kind = n.normal.kind := n.tree.kind_normal.symm
    _ = m.normal.kind := kinds
    _ = m.kind := m.tree.kind_normal

theorem Node.cleared_of_alike (h : n.alike m = true) : n.cleared.alike m.cleared = true := by
  have trans {a b c : Node} := @Node.alike_equivalence.trans a b c
  exact trans (trans n.alike_cleared h) (Node.alike_equivalence.symm m.alike_cleared)

/-- Two rebuilds both succeed with like trees or both fail in the same way. -/
inductive AlikeOutcomes : Except ε Node → Except ε Node → Prop
  | ok {n m : Node} (h : n.alike m = true) : AlikeOutcomes (.ok n) (.ok m)
  | error (e : ε) : AlikeOutcomes (.error e) (.error e)

theorem Pass.Standard.start_of_alike {P : Pass σ ε} (hP : P.Standard) (h : n.alike m = true)
    (context : σ) :
    AlikeOutcomes ((P.rebuild n).start context).1 ((P.rebuild m).start context).1 ∧
      ((P.rebuild n).start context).2 = ((P.rebuild m).start context).2 := by
  rw [hP.rebuild_start, hP.rebuild_start, Node.tour_of_alike h, Node.kind_of_alike h]
  rcases P.follow m.tree.tour ⟨context, #[.rebuildingTree m.kind]⟩ with ⟨e | _, p⟩
  · exact ⟨.error e, rfl⟩
  · exact ⟨.ok (Node.cleared_of_alike h), rfl⟩

/-- Structural equality says that two trees are the same but for locations and for which NaN stands
in a literal. A run of the identity pass or of the counting pass cannot tell such trees apart. -/
theorem alike_congruence :
    (∀ d e : Double, d.normal = e.normal ↔ d = e ∨ d.isNaN = true ∧ e.isNaN = true) ∧
    (∀ c (t u : Tree c), t.alike u = true ↔ t.normal = u.normal) ∧
    (∀ n m : Node, n.alike m = true ↔ n.normal = m.normal) ∧
    (∀ c, Equivalence fun t u : Tree c => t.alike u = true) ∧
    (Equivalence fun n m : Node => n.alike m = true) ∧
    ∀ n m : Node, n.alike m = true →
      AlikeOutcomes ((Pass.identity.rebuild n).start ()).1 ((Pass.identity.rebuild m).start ()).1 ∧
      ∀ T : Tally,
        AlikeOutcomes ((Pass.visitCounter.rebuild n).start T).1
          ((Pass.visitCounter.rebuild m).start T).1 ∧
        ((Pass.visitCounter.rebuild n).start T).2.context =
          ((Pass.visitCounter.rebuild m).start T).2.context := by
  refine ⟨Double.normal_eq_iff, fun _ => Tree.alike_iff, Node.alike_iff, Tree.alike_equivalence,
    Node.alike_equivalence, ?_⟩
  intro n m h
  refine ⟨(Pass.identity_standard.start_of_alike h ()).1, ?_⟩
  intro T
  obtain ⟨outcomes, progress⟩ := Pass.visitCounter_standard.start_of_alike h T
  exact ⟨outcomes, congrArg Progress.context progress⟩

/-- Two NaN literals, one where it was parsed and one with a payload of its own. -/
theorem nan_literals_alike :
    let negated (d : Double) (location : Location) : Node :=
      ⟨Expression.not (.doubleLiteral d location) location, rfl⟩
    let n := negated Double.canonicalNaN (some ⟨1, 8⟩)
    let m := negated ⟨0xfff8000000000001⟩ none
    n.alike m = true ∧ n.normal = m.normal ∧
      AlikeOutcomes ((Pass.identity.rebuild n).start ()).1 ((Pass.identity.rebuild m).start ()).1 ∧
      ((Pass.visitCounter.rebuild n).start {}).2.context =
        ((Pass.visitCounter.rebuild m).start {}).2.context := by
  intro negated n m
  obtain ⟨-, -, normal, -, -, congruence⟩ := alike_congruence
  have h : n.alike m = true := by decide
  obtain ⟨outcomes, counted⟩ := congruence n m h
  exact ⟨h, (normal n m).mp h, outcomes, (counted {}).2⟩

end SqlTrees
