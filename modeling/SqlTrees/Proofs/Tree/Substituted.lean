import SqlTrees.Proofs.Tree.Nodes

/-! # Trees with some of their nodes replaced

* `Replacement`: what takes the place of the nodes of some kinds.
* `Tree.substituted`: a tree with every such node replaced, and otherwise cleared.
* `Tree.substituted_eq_cleared`: a tree without any such node is only cleared.
-/

namespace SqlTrees
set_option autoImplicit false

/-- For some kinds of nodes, the tree that takes the place of a node, or the failure to find one. -/
abbrev Replacement (ε : Type) :=
  (k : Kind) → Option (Record Tree k.signature → Except ε (Tree k.category))

namespace Replacement
variable {ε : Type}

/-- Nodes of one kind are replaced. -/
def only (k : Kind) (f : Record Tree k.signature → Except ε (Tree k.category)) : Replacement ε :=
  fun l => if h : k = l then some (h ▸ f) else none

/-- No replaced node has room for a child. -/
def Childless (new? : Replacement ε) : Prop :=
  ∀ k f, new? k = some f → Signature.childless k.signature = true

/-- The tree in the place of a node, by its fields and by these with the nodes below replaced. -/
def put (new? : Replacement ε) (k : Kind) (fields below : Record Tree k.signature) :
    Tree k.category :=
  match new? k with
  | some f =>
    match f fields with
    | .ok t => t
    | .error _ => .ofFields k fields
  | none => .ofFields k (if k ∈ Kind.leaves then below else below.unlocated)

variable {k : Kind} {f : Record Tree k.signature → Except ε (Tree k.category)}

theorem put_of_some {new? : Replacement ε} (h : new? k = some f) {fields : Record Tree k.signature}
    {t : Tree k.category} (ht : f fields = .ok t) (below : Record Tree k.signature) :
    new?.put k fields below = t := by
  simp only [put, h, ht]

theorem put_of_none {new? : Replacement ε} (h : new? k = none)
    (fields below : Record Tree k.signature) :
    new?.put k fields below =
      .ofFields k (if k ∈ Kind.leaves then below else below.unlocated) := by
  rw [put, h]

theorem only_self : only k f k = some f := dif_pos rfl

theorem only_of_ne {l : Kind} (h : l ≠ k) : only k f l = none := dif_neg h.symm

theorem only_childless (h : Signature.childless k.signature = true) : (only k f).Childless := by
  intro l g hl
  by_cases hk : l = k
  · rw [hk, h]
  · rw [only_of_ne hk] at hl
    cases hl

end Replacement

section
variable {ε : Type} (new? : Replacement ε)

mutual

/-- The tree without the locations of its composite nodes, and with its nodes replaced where there
is a replacement for their kind. The replacing tree stands as it is. -/
def Tree.substituted : {c : Category} → Tree c → Tree c
  | _, .node k rfl fields => new?.put k fields fields.substituted
  | _, .inclusion i t => .inclusion i t.substituted

def Record.substituted : {s : Signature} → Record Tree s → Record Tree s
  | _, .nil => .nil
  | _, .cons f r => .cons f.substituted r.substituted

def Field.substituted : {τ : FieldType} → Field Tree τ → Field Tree τ
  | _, .atom v => .atom v
  | _, .child t => .child t.substituted
  | _, .none => .none
  | _, .some f => .some f.substituted
  | _, .nil => .nil
  | _, .cons f fs => .cons f.substituted fs.substituted

end

/-- The node with its nodes replaced and the locations of its composite nodes dropped. -/
def Node.substituted (n : Node) : Node :=
  { n with tree := n.tree.substituted new? }

variable {new?}

theorem Tree.substituted_node (k : Kind) (fields : Record Tree k.signature) :
    (Tree.ofFields k fields).substituted new? =
      Replacement.put new? k fields (fields.substituted new?) := rfl

mutual

theorem Tree.substituted_eq_cleared : {c : Category} → (t : Tree c) →
    (∀ x ∈ t.nodes, new? x.kind = none) → t.substituted new? = t.cleared
  | _, .node k rfl fields, h => by
    rw [Tree.nodes, List.forall_mem_cons] at h
    have ih := fields.substituted_eq_cleared h.2
    rw [Tree.substituted_node, Replacement.put_of_none h.1, Tree.cleared, ih]
  | _, .inclusion i t, h => by
    rw [Tree.nodes] at h
    rw [Tree.substituted, Tree.cleared, t.substituted_eq_cleared h]

theorem Record.substituted_eq_cleared : {s : Signature} → (r : Record Tree s) →
    (∀ x ∈ r.nodes, new? x.kind = none) → r.substituted new? = r.cleared
  | _, .nil, _ => by rw [Record.substituted, Record.cleared]
  | _, .cons f r, h => by
    rw [Record.nodes, List.forall_mem_append] at h
    rw [Record.substituted, Record.cleared, f.substituted_eq_cleared h.1,
      r.substituted_eq_cleared h.2]

theorem Field.substituted_eq_cleared : {τ : FieldType} → (f : Field Tree τ) →
    (∀ x ∈ f.nodes, new? x.kind = none) → f.substituted new? = f.cleared
  | _, .atom _, _ => by rw [Field.substituted, Field.cleared]
  | _, .child t, h => by
    rw [Field.nodes] at h
    rw [Field.substituted, Field.cleared, t.substituted_eq_cleared h]
  | _, .none, _ => by rw [Field.substituted, Field.cleared]
  | _, .some f, h => by
    rw [Field.nodes] at h
    rw [Field.substituted, Field.cleared, f.substituted_eq_cleared h]
  | _, .nil, _ => by rw [Field.substituted, Field.cleared]
  | _, .cons f fs, h => by
    rw [Field.nodes, List.forall_mem_append] at h
    rw [Field.substituted, Field.cleared, f.substituted_eq_cleared h.1,
      fs.substituted_eq_cleared h.2]

end

theorem Node.substituted_eq_cleared (n : Node) (h : ∀ x ∈ n.tree.nodes, new? x.kind = none) :
    n.substituted new? = n.cleared := by
  rw [substituted, cleared, n.tree.substituted_eq_cleared h]

theorem Record.substituted_of_childless {s : Signature} (r : Record Tree s)
    (h : Signature.childless s = true) : r.substituted new? = r := by
  have hr := r.nodes_of_childless h
  rw [r.substituted_eq_cleared (by simp [hr]), r.cleared_of_childless h]

end
end SqlTrees
