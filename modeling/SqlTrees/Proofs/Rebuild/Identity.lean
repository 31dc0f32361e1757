import SqlTrees.Passes.Substitute
import SqlTrees.Proofs.Rebuild.Tour

/-! # The pass without rules of its own

* `Leg.failed?`, `Tree.findSome?_failed_tour`: the first leg that fails is that of the first node,
  reading a node before the nodes below it, whose kind has no rule.
* `Pass.identity_result`: the identity pass fails with that kind, or hands back the cleared tree.
* `identity_lossless`: it succeeds exactly on trees whose kinds all have a rule, changes nothing but
  the locations of composite nodes, and then has nothing left to change.
-/

namespace SqlTrees
set_option autoImplicit false

/-! ## The first leg that fails -/

/-- The kind that a leg fails on. -/
def Leg.failed? : Leg → Option Kind
  | .fail k => some k
  | _ => none

mutual

theorem Tree.findSome?_failed_tour : {c : Category} → (t : Tree c) →
    t.tour.findSome? Leg.failed? = t.kinds.find? (· ∈ Kind.unruled)
  | _, .node k isA fields => by
    have ih := fields.findSome?_failed_tour
    rw [Tree.tour, Tree.kinds]
    by_cases hu : k ∈ Kind.unruled
    · rw [if_pos hu, List.find?_cons_of_pos (by simpa using hu)]
      rfl
    · rw [if_neg hu, List.find?_cons_of_neg (by simpa using hu), ← ih]
      simp only [List.findSome?_append, List.findSome?_cons, List.findSome?_nil, Leg.failed?,
        Option.none_or, Option.or_none]
  | _, .inclusion _ t => by rw [Tree.tour, Tree.kinds, t.findSome?_failed_tour]

theorem Record.findSome?_failed_tour : {s : Signature} → (r : Record Tree s) →
    r.tour.findSome? Leg.failed? = r.kinds.find? (· ∈ Kind.unruled)
  | _, .nil => rfl
  | _, .cons f r => by
    rw [Record.tour, Record.kinds, List.findSome?_append, List.find?_append,
      f.findSome?_failed_tour, r.findSome?_failed_tour]

theorem Field.findSome?_failed_tour : {τ : FieldType} → (f : Field Tree τ) →
    f.tour.findSome? Leg.failed? = f.kinds.find? (· ∈ Kind.unruled)
  | _, .atom _ => rfl
  | _, .child t => by rw [Field.tour, Field.kinds, t.findSome?_failed_tour]
  | _, .none => rfl
  | _, .some f => by rw [Field.tour, Field.kinds, f.findSome?_failed_tour]
  | _, .nil => rfl
  | _, .cons f fs => by
    rw [Field.tour, Field.kinds, List.findSome?_append, List.find?_append,
      f.findSome?_failed_tour, fs.findSome?_failed_tour]

end

/-! ## The identity pass -/

namespace Pass

theorem identity_standard : identity.Standard :=
  ⟨fun _ => rfl, fun _ => rfl, rfl, rfl⟩

theorem identity_follow (legs : List Leg) (p : Progress Unit) :
    (identity.follow legs p).1 =
      match legs.findSome? Leg.failed? with
      | none => .ok ()
      | some k => .error ⟨k⟩ := by
  induction legs generalizing p with
  | nil => rfl
  | cons leg legs ih =>
    cases leg with
    | enter k => exact ih _
    | leave k => exact ih _
    | fail k => rfl

/-- The identity pass fails on the first node without a rule; if there is none, it hands back the
cleared tree. -/
theorem identity_result (n : Node) :
    ((identity.rebuild n).start ()).1 =
      match n.tree.kinds.find? (· ∈ Kind.unruled) with
      | none => .ok n.cleared
      | some k => .error ⟨k⟩ := by
  have hf := identity_follow n.tree.tour ⟨(), #[.rebuildingTree n.kind]⟩
  rw [identity_standard.rebuild_start]
  rw [Tree.findSome?_failed_tour] at hf
  rcases hr : identity.follow n.tree.tour ⟨(), #[.rebuildingTree n.kind]⟩ with ⟨e | _, p⟩
  · rw [hr] at hf
    cases hk : n.tree.kinds.find? (· ∈ Kind.unruled) with
    | none => rw [hk] at hf; cases hf
    | some k => rw [hk] at hf; cases hf; rfl
  · rw [hr] at hf
    cases hk : n.tree.kinds.find? (· ∈ Kind.unruled) with
    | none => rfl
    | some k => rw [hk] at hf; cases hf

theorem identity_eq_ok_iff (n m : Node) :
    ((identity.rebuild n).start ()).1 = .ok m ↔
      (∀ k ∈ n.tree.kinds, k ∉ Kind.unruled) ∧ m = n.cleared := by
  rw [identity_result]
  cases hk : n.tree.kinds.find? (· ∈ Kind.unruled) with
  | none =>
    have h : ∀ k ∈ n.tree.kinds, k ∉ Kind.unruled := by simpa using hk
    constructor
    · intro hm
      cases hm
      exact ⟨h, rfl⟩
    · intro hm
      rw [hm.2]
  | some k =>
    constructor
    · intro hm
      cases hm
    · intro hm
      have hu : k ∈ Kind.unruled := by simpa using List.find?_some hk
      exact absurd hu (hm.1 k (List.mem_of_find?_eq_some hk))

end Pass

/-- The identity pass succeeds exactly on the trees in which every kind has a rule. Its result is
the tree without the locations of its composite nodes: structurally equal to it, of the same kind,
and rebuilt as it stands by a second run. -/
theorem identity_lossless (n : Node) :
    ((∃ m, ((Pass.identity.rebuild n).start ()).1 = .ok m) ↔
      ∀ k ∈ n.tree.kinds, k ∉ Kind.unruled) ∧
    ∀ m, ((Pass.identity.rebuild n).start ()).1 = .ok m →
      m = n.cleared ∧ m.alike n = true ∧ m.kind = n.kind ∧
        ((Pass.identity.rebuild m).start ()).1 = .ok m := by
  constructor
  · constructor
    · rintro ⟨m, hm⟩
      exact ((Pass.identity_eq_ok_iff n m).mp hm).1
    · intro h
      exact ⟨n.cleared, (Pass.identity_eq_ok_iff n n.cleared).mpr ⟨h, rfl⟩⟩
  · intro m hm
    obtain ⟨h, rfl⟩ := (Pass.identity_eq_ok_iff n m).mp hm
    have hk : n.cleared.tree.kinds = n.tree.kinds := n.tree.kinds_cleared
    refine ⟨rfl, n.alike_cleared, n.kind_cleared, ?_⟩
    exact (Pass.identity_eq_ok_iff _ _).mpr ⟨by rw [hk]; exact h, n.cleared_cleared.symm⟩

end SqlTrees
