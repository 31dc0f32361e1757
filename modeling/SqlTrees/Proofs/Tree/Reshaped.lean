import SqlTrees.Proofs.Tree.Nodes

/-! # Trees with the fields of some nodes changed

* `Reshape`: what becomes of the fields of a node.
* `Tree.reshaped`: a tree with the fields of every node changed, from the bottom up.
* `Tree.reshaped_reshaped`: two changes in a row are one, if they are so at every node.
* `Tree.reshaped_eq_self`: a change of kinds that do not occur changes nothing.
* `Reshape.ChangesOnly`: the changes of nodes of one kind; for them all that follows is to be shown at
  that kind.
* `Tree.cleared_reshaped`: a change that does not look at locations may be made before or after
  they are dropped.
* `Tree.kinds_reshaped`: the nodes that a change brings in.
-/

namespace SqlTrees
set_option autoImplicit false

/-- For each kind of node, what its fields become once the nodes below it have been changed. -/
abbrev Reshape := (k : Kind) → Record Tree k.signature → Record Tree k.signature

section
variable (g : Reshape)

mutual

/-- The tree with the fields of its nodes changed, those below a node before its own. -/
def Tree.reshaped : {c : Category} → Tree c → Tree c
  | _, .node k isA fields => .node k isA (g k fields.reshaped)
  | _, .inclusion i t => .inclusion i t.reshaped

def Record.reshaped : {s : Signature} → Record Tree s → Record Tree s
  | _, .nil => .nil
  | _, .cons f r => .cons f.reshaped r.reshaped

def Field.reshaped : {τ : FieldType} → Field Tree τ → Field Tree τ
  | _, .atom v => .atom v
  | _, .child t => .child t.reshaped
  | _, .none => .none
  | _, .some f => .some f.reshaped
  | _, .nil => .nil
  | _, .cons f fs => .cons f.reshaped fs.reshaped

end

/-- The node with the fields of its nodes changed. -/
def Node.reshaped (n : Node) : Node :=
  { n with tree := n.tree.reshaped g }

end

section
variable {g first second whole : Reshape}

/-! ## Where nothing is changed -/

theorem Field.reshaped_of_childless : {τ : FieldType} → (f : Field Tree τ) →
    τ.childless = true → f.reshaped g = f
  | _, .atom _, _ => by rw [Field.reshaped]
  | _, .none, _ => by rw [Field.reshaped]
  | _, .some f, h => by rw [Field.reshaped, f.reshaped_of_childless h]
  | _, .nil, _ => by rw [Field.reshaped]
  | _, .cons f fs, h => by
    rw [Field.reshaped, f.reshaped_of_childless h, fs.reshaped_of_childless h]

theorem Record.reshaped_of_childless : {s : Signature} → (r : Record Tree s) →
    Signature.childless s = true → r.reshaped g = r
  | _, .nil, _ => by rw [Record.reshaped]
  | _, .cons f r, h => by
    obtain ⟨hf, hr⟩ := Signature.childless_cons h
    rw [Record.reshaped, f.reshaped_of_childless hf, r.reshaped_of_childless hr]

mutual

theorem Tree.reshaped_eq_self : {c : Category} → (t : Tree c) →
    (∀ k ∈ t.kinds, ∀ fields, g k fields = fields) → t.reshaped g = t
  | _, .node k isA fields, h => by
    rw [Tree.kinds, List.forall_mem_cons] at h
    rw [Tree.reshaped, h.1, fields.reshaped_eq_self h.2]
  | _, .inclusion i t, h => by
    rw [Tree.kinds] at h
    rw [Tree.reshaped, t.reshaped_eq_self h]

theorem Record.reshaped_eq_self : {s : Signature} → (r : Record Tree s) →
    (∀ k ∈ r.kinds, ∀ fields, g k fields = fields) → r.reshaped g = r
  | _, .nil, _ => by rw [Record.reshaped]
  | _, .cons f r, h => by
    rw [Record.kinds, List.forall_mem_append] at h
    rw [Record.reshaped, f.reshaped_eq_self h.1, r.reshaped_eq_self h.2]

theorem Field.reshaped_eq_self : {τ : FieldType} → (f : Field Tree τ) →
    (∀ k ∈ f.kinds, ∀ fields, g k fields = fields) → f.reshaped g = f
  | _, .atom _, _ => by rw [Field.reshaped]
  | _, .child t, h => by
    rw [Field.kinds] at h
    rw [Field.reshaped, t.reshaped_eq_self h]
  | _, .none, _ => by rw [Field.reshaped]
  | _, .some f, h => by
    rw [Field.kinds] at h
    rw [Field.reshaped, f.reshaped_eq_self h]
  | _, .nil, _ => by rw [Field.reshaped]
  | _, .cons f fs, h => by
    rw [Field.kinds, List.forall_mem_append] at h
    rw [Field.reshaped, f.reshaped_eq_self h.1, fs.reshaped_eq_self h.2]

end

theorem Node.reshaped_eq_self (n : Node) (h : ∀ k ∈ n.tree.kinds, ∀ fields, g k fields = fields) :
    n.reshaped g = n := by
  rw [reshaped, n.tree.reshaped_eq_self h]

/-- The change leaves the nodes of every other kind as they are. -/
def Reshape.ChangesOnly (g : Reshape) (k : Kind) : Prop :=
  ∀ l, l ≠ k → ∀ fields, g l fields = fields

theorem Reshape.ChangesOnly.reshaped_eq_self {k : Kind} (h : g.ChangesOnly k) (n : Node)
    (hk : k ∉ n.tree.kinds) : n.reshaped g = n := by
  refine n.reshaped_eq_self fun l hl => h l ?_
  rintro rfl
  exact hk hl

/-! ## Two changes in a row -/

/-- At every node, the second change of what the first one has made is a third change at once. -/
def Reshape.Composes (first second whole : Reshape) : Prop :=
  ∀ k (fields : Record Tree k.signature),
    second k ((first k fields).reshaped second) = whole k (fields.reshaped second)

theorem Reshape.ChangesOnly.composes {k : Kind} (hf : first.ChangesOnly k)
    (hs : second.ChangesOnly k) (hw : whole.ChangesOnly k)
    (own : ∀ fields : Record Tree k.signature,
      second k ((first k fields).reshaped second) = whole k (fields.reshaped second)) :
    first.Composes second whole := by
  intro l fields
  by_cases hl : l = k
  · subst hl
    exact own fields
  · rw [hf l hl, hs l hl, hw l hl]

mutual

theorem Tree.reshaped_reshaped (h : first.Composes second whole) : {c : Category} →
    (t : Tree c) → (t.reshaped first).reshaped second = t.reshaped whole
  | _, .node k isA fields => by
    rw [Tree.reshaped, Tree.reshaped, h k, fields.reshaped_reshaped h, Tree.reshaped]
  | _, .inclusion i t => by
    rw [Tree.reshaped, Tree.reshaped, t.reshaped_reshaped h, Tree.reshaped]

theorem Record.reshaped_reshaped (h : first.Composes second whole) : {s : Signature} →
    (r : Record Tree s) → (r.reshaped first).reshaped second = r.reshaped whole
  | _, .nil => rfl
  | _, .cons f r => by
    rw [Record.reshaped, Record.reshaped, f.reshaped_reshaped h, r.reshaped_reshaped h,
      Record.reshaped]

theorem Field.reshaped_reshaped (h : first.Composes second whole) : {τ : FieldType} →
    (f : Field Tree τ) → (f.reshaped first).reshaped second = f.reshaped whole
  | _, .atom _ => rfl
  | _, .child t => by
    rw [Field.reshaped, Field.reshaped, t.reshaped_reshaped h, Field.reshaped]
  | _, .none => rfl
  | _, .some f => by
    rw [Field.reshaped, Field.reshaped, f.reshaped_reshaped h, Field.reshaped]
  | _, .nil => rfl
  | _, .cons f fs => by
    rw [Field.reshaped, Field.reshaped, f.reshaped_reshaped h, fs.reshaped_reshaped h,
      Field.reshaped]

end

theorem Node.reshaped_reshaped (h : first.Composes second whole) (n : Node) :
    (n.reshaped first).reshaped second = n.reshaped whole := by
  rw [reshaped, reshaped, n.tree.reshaped_reshaped h, reshaped]

/-! ## Locations -/

theorem Field.reshaped_unlocated : {τ : FieldType} → (f : Field Tree τ) →
    f.unlocated.reshaped g = (f.reshaped g).unlocated
  | .atom a, .atom v => by cases a <;> rfl
  | .child _, .child _ => rfl
  | .option _, .none => rfl
  | .option _, .some _ => rfl
  | .list _, .nil => rfl
  | .list _, .cons _ _ => rfl

theorem Record.reshaped_unlocated {s : Signature} (r : Record Tree s) :
    r.unlocated.reshaped g = (r.reshaped g).unlocated := by
  induction r with
  | nil => rfl
  | cons f r ih =>
    rw [Record.unlocated, Record.reshaped, f.reshaped_unlocated, ih]
    rfl

/-- A change that does not look at locations, neither at the node's own nor below. -/
structure Reshape.IgnoresLocations (g : Reshape) : Prop where
  cleared : ∀ k fields, (g k fields).cleared = g k fields.cleared
  unlocated : ∀ k fields, (g k fields).unlocated = g k fields.unlocated

theorem Reshape.ChangesOnly.ignoresLocations {k : Kind} (h : g.ChangesOnly k)
    (own : ∀ fields : Record Tree k.signature,
      (g k fields).cleared = g k fields.cleared ∧ (g k fields).unlocated = g k fields.unlocated) :
    g.IgnoresLocations := by
  have each (l : Kind) (fields : Record Tree l.signature) :
      (g l fields).cleared = g l fields.cleared ∧ (g l fields).unlocated = g l fields.unlocated := by
    by_cases hl : l = k
    · subst hl
      exact own fields
    · simp only [h l hl, and_self]
  exact ⟨fun l fields => (each l fields).1, fun l fields => (each l fields).2⟩

mutual

theorem Tree.cleared_reshaped (h : g.IgnoresLocations) : {c : Category} → (t : Tree c) →
    (t.reshaped g).cleared = t.cleared.reshaped g
  | _, .node k isA fields => by
    rw [Tree.reshaped, Tree.cleared, Tree.cleared, Tree.reshaped, h.cleared,
      fields.cleared_reshaped h]
    split
    · rfl
    · rw [h.unlocated, Record.reshaped_unlocated]
  | _, .inclusion i t => by
    rw [Tree.reshaped, Tree.cleared, t.cleared_reshaped h, Tree.cleared, Tree.reshaped]

theorem Record.cleared_reshaped (h : g.IgnoresLocations) : {s : Signature} → (r : Record Tree s) →
    (r.reshaped g).cleared = r.cleared.reshaped g
  | _, .nil => rfl
  | _, .cons f r => by
    rw [Record.reshaped, Record.cleared, f.cleared_reshaped h, r.cleared_reshaped h,
      Record.cleared, Record.reshaped]

theorem Field.cleared_reshaped (h : g.IgnoresLocations) : {τ : FieldType} → (f : Field Tree τ) →
    (f.reshaped g).cleared = f.cleared.reshaped g
  | _, .atom _ => rfl
  | _, .child t => by
    rw [Field.reshaped, Field.cleared, t.cleared_reshaped h, Field.cleared, Field.reshaped]
  | _, .none => rfl
  | _, .some f => by
    rw [Field.reshaped, Field.cleared, f.cleared_reshaped h, Field.cleared, Field.reshaped]
  | _, .nil => rfl
  | _, .cons f fs => by
    rw [Field.reshaped, Field.cleared, f.cleared_reshaped h, fs.cleared_reshaped h, Field.cleared,
      Field.reshaped]

end

theorem Node.cleared_reshaped (h : g.IgnoresLocations) (n : Node) :
    (n.reshaped g).cleared = n.cleared.reshaped g := by
  rw [reshaped, cleared, n.tree.cleared_reshaped h, cleared, reshaped]

/-! ## Kinds -/

theorem Tree.kind_reshaped : {c : Category} → (t : Tree c) → (t.reshaped g).kind = t.kind
  | _, .node _ _ _ => rfl
  | _, .inclusion _ t => by rw [Tree.reshaped, Tree.kind, t.kind_reshaped, Tree.kind]

variable {e : Kind → List Kind}

mutual

/-- If the change of every node puts a list of kinds in the place of its own kind, the kinds of the
tree are these lists one after the other. -/
theorem Tree.kinds_reshaped (h : ∀ k fields, k :: (g k fields).kinds = e k ++ fields.kinds) :
    {c : Category} → (t : Tree c) → (t.reshaped g).kinds = t.kinds.flatMap e
  | _, .node k _ fields => by
    rw [Tree.reshaped, Tree.kinds, h, fields.kinds_reshaped h, Tree.kinds, List.flatMap_cons]
  | _, .inclusion _ t => by rw [Tree.reshaped, Tree.kinds, t.kinds_reshaped h, Tree.kinds]

theorem Record.kinds_reshaped (h : ∀ k fields, k :: (g k fields).kinds = e k ++ fields.kinds) :
    {s : Signature} → (r : Record Tree s) → (r.reshaped g).kinds = r.kinds.flatMap e
  | _, .nil => rfl
  | _, .cons f r => by
    rw [Record.reshaped, Record.kinds, f.kinds_reshaped h, r.kinds_reshaped h, Record.kinds,
      List.flatMap_append]

theorem Field.kinds_reshaped (h : ∀ k fields, k :: (g k fields).kinds = e k ++ fields.kinds) :
    {τ : FieldType} → (f : Field Tree τ) → (f.reshaped g).kinds = f.kinds.flatMap e
  | _, .atom _ => rfl
  | _, .child t => by rw [Field.reshaped, Field.kinds, t.kinds_reshaped h, Field.kinds]
  | _, .none => rfl
  | _, .some f => by rw [Field.reshaped, Field.kinds, f.kinds_reshaped h, Field.kinds]
  | _, .nil => rfl
  | _, .cons f fs => by
    rw [Field.reshaped, Field.kinds, f.kinds_reshaped h, fs.kinds_reshaped h, Field.kinds,
      List.flatMap_append]

end

/-- A change that brings in the same nodes below every node of its kind. -/
theorem Reshape.ChangesOnly.kinds_reshaped {k : Kind} (h : g.ChangesOnly k) {new : List Kind}
    (own : ∀ fields, (g k fields).kinds = new ++ fields.kinds) (n : Node) :
    (n.reshaped g).tree.kinds = n.tree.kinds.flatMap fun l => if l = k then k :: new else [l] := by
  refine n.tree.kinds_reshaped fun l fields => ?_
  by_cases hl : l = k
  · subst hl
    rw [if_pos rfl, own, List.cons_append]
  · rw [if_neg hl, h l hl, List.singleton_append]

end
end SqlTrees
