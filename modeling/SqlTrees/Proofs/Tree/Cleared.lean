import SqlTrees.Proofs.Grammar.Treatment
import SqlTrees.Proofs.Tree.Alike

/-! # The nodes of a tree and their locations

* `Tree.kinds`: the kinds of all nodes of a tree, each node before the nodes below it.
* `Tree.cleared`: the tree without the locations of its composite nodes.
* `Tree.kinds_cleared`, `Tree.cleared_cleared`: clearing keeps every node, and there is nothing to
  clear a second time.
* `Tree.alike_cleared`: structural equality does not see the difference.

An induction over trees comes in three statements at once, for a tree, a record and a field.
-/

namespace SqlTrees
set_option autoImplicit false

/-! ## Kinds of all nodes -/

mutual

/-- The kinds of all nodes, each node before the nodes below it. -/
def Tree.kinds : {c : Category} → Tree c → List Kind
  | _, .node k _ fields => k :: fields.kinds
  | _, .inclusion _ t => t.kinds

def Record.kinds : {s : Signature} → Record Tree s → List Kind
  | _, .nil => []
  | _, .cons f r => f.kinds ++ r.kinds

def Field.kinds : {τ : FieldType} → Field Tree τ → List Kind
  | _, .atom _ => []
  | _, .child t => t.kinds
  | _, .none => []
  | _, .some f => f.kinds
  | _, .nil => []
  | _, .cons f fs => f.kinds ++ fs.kinds

end

/-! ## Trees without locations -/

mutual

/-- The tree without the locations of its composite nodes; a leaf keeps its own. -/
def Tree.cleared : {c : Category} → Tree c → Tree c
  | _, .node k isA fields =>
    .node k isA (if k ∈ Kind.leaves then fields.cleared else fields.cleared.unlocated)
  | _, .inclusion i t => .inclusion i t.cleared

def Record.cleared : {s : Signature} → Record Tree s → Record Tree s
  | _, .nil => .nil
  | _, .cons f r => .cons f.cleared r.cleared

def Field.cleared : {τ : FieldType} → Field Tree τ → Field Tree τ
  | _, .atom v => .atom v
  | _, .child t => .child t.cleared
  | _, .none => .none
  | _, .some f => .some f.cleared
  | _, .nil => .nil
  | _, .cons f fs => .cons f.cleared fs.cleared

end

/-- The node without the locations of its composite nodes. -/
def Node.cleared (n : Node) : Node :=
  { n with tree := n.tree.cleared }

/-! ## Records without children -/

theorem Field.cleared_of_childless : {τ : FieldType} → (f : Field Tree τ) →
    τ.childless = true → f.cleared = f
  | _, .atom _, _ => by rw [Field.cleared]
  | _, .none, _ => by rw [Field.cleared]
  | _, .some f, h => by rw [Field.cleared, f.cleared_of_childless h]
  | _, .nil, _ => by rw [Field.cleared]
  | _, .cons f fs, h => by
    rw [Field.cleared, f.cleared_of_childless h, fs.cleared_of_childless h]

theorem Record.cleared_of_childless : {s : Signature} → (r : Record Tree s) →
    Signature.childless s = true → r.cleared = r
  | _, .nil, _ => by rw [Record.cleared]
  | _, .cons f r, h => by
    obtain ⟨hf, hr⟩ := Signature.childless_cons h
    rw [Record.cleared, f.cleared_of_childless hf, r.cleared_of_childless hr]

/-! ## Dropping the location of a record -/

theorem Field.unlocated_unlocated {X : Category → Type} : {τ : FieldType} → (f : Field X τ) →
    f.unlocated.unlocated = f.unlocated
  | .atom a, .atom v => by cases a <;> rfl
  | .child _, _ => rfl
  | .option _, _ => rfl
  | .list _, _ => rfl

theorem Record.unlocated_unlocated {X : Category → Type} : {s : Signature} → (r : Record X s) →
    r.unlocated.unlocated = r.unlocated
  | _, .nil => rfl
  | _, .cons f r => by
    rw [Record.unlocated, Record.unlocated, f.unlocated_unlocated, r.unlocated_unlocated]

theorem Field.cleared_unlocated : {τ : FieldType} → (f : Field Tree τ) →
    f.unlocated.cleared = f.cleared.unlocated
  | .atom a, .atom v => by cases a <;> rfl
  | .child _, .child _ => rfl
  | .option _, .none => rfl
  | .option _, .some _ => rfl
  | .list _, .nil => rfl
  | .list _, .cons _ _ => rfl

theorem Record.cleared_unlocated {s : Signature} (r : Record Tree s) :
    r.unlocated.cleared = r.cleared.unlocated := by
  induction r with
  | nil => rfl
  | cons f r ih =>
    rw [Record.unlocated, Record.cleared, f.cleared_unlocated, ih]
    rfl

theorem Field.kinds_unlocated : {τ : FieldType} → (f : Field Tree τ) → f.unlocated.kinds = f.kinds
  | .atom a, .atom v => by cases a <;> rfl
  | .child _, _ => rfl
  | .option _, _ => rfl
  | .list _, _ => rfl

theorem Record.kinds_unlocated {s : Signature} (r : Record Tree s) :
    r.unlocated.kinds = r.kinds := by
  induction r with
  | nil => rfl
  | cons f r ih =>
    rw [Record.unlocated, Record.kinds, f.kinds_unlocated, ih]
    rfl

/-! ## Clearing keeps the nodes -/

theorem Tree.kind_cleared : {c : Category} → (t : Tree c) → t.cleared.kind = t.kind
  | _, .node _ _ _ => rfl
  | _, .inclusion _ t => by rw [Tree.cleared, Tree.kind, t.kind_cleared, Tree.kind]

mutual

theorem Tree.kinds_cleared : {c : Category} → (t : Tree c) → t.cleared.kinds = t.kinds
  | _, .node k isA fields => by
    rw [Tree.cleared, Tree.kinds, Tree.kinds]
    split
    · rw [fields.kinds_cleared]
    · rw [Record.kinds_unlocated, fields.kinds_cleared]
  | _, .inclusion i t => by rw [Tree.cleared, Tree.kinds, t.kinds_cleared, Tree.kinds]

theorem Record.kinds_cleared : {s : Signature} → (r : Record Tree s) → r.cleared.kinds = r.kinds
  | _, .nil => rfl
  | _, .cons f r => by
    rw [Record.cleared, Record.kinds, f.kinds_cleared, r.kinds_cleared, Record.kinds]

theorem Field.kinds_cleared : {τ : FieldType} → (f : Field Tree τ) → f.cleared.kinds = f.kinds
  | _, .atom _ => rfl
  | _, .child t => by rw [Field.cleared, Field.kinds, t.kinds_cleared, Field.kinds]
  | _, .none => rfl
  | _, .some f => by rw [Field.cleared, Field.kinds, f.kinds_cleared, Field.kinds]
  | _, .nil => rfl
  | _, .cons f fs => by
    rw [Field.cleared, Field.kinds, f.kinds_cleared, fs.kinds_cleared, Field.kinds]

end

mutual

theorem Tree.cleared_cleared : {c : Category} → (t : Tree c) → t.cleared.cleared = t.cleared
  | _, .node k isA fields => by
    rw [Tree.cleared, Tree.cleared]
    split
    · rw [fields.cleared_cleared]
    · rw [Record.cleared_unlocated, fields.cleared_cleared, Record.unlocated_unlocated]
  | _, .inclusion i t => by rw [Tree.cleared, Tree.cleared, t.cleared_cleared]

theorem Record.cleared_cleared : {s : Signature} → (r : Record Tree s) →
    r.cleared.cleared = r.cleared
  | _, .nil => rfl
  | _, .cons f r => by rw [Record.cleared, Record.cleared, f.cleared_cleared, r.cleared_cleared]

theorem Field.cleared_cleared : {τ : FieldType} → (f : Field Tree τ) →
    f.cleared.cleared = f.cleared
  | _, .atom _ => rfl
  | _, .child t => by rw [Field.cleared, Field.cleared, t.cleared_cleared]
  | _, .none => rfl
  | _, .some f => by rw [Field.cleared, Field.cleared, f.cleared_cleared]
  | _, .nil => rfl
  | _, .cons f fs => by rw [Field.cleared, Field.cleared, f.cleared_cleared, fs.cleared_cleared]

end

theorem Node.kind_cleared (n : Node) : n.cleared.kind = n.kind :=
  n.tree.kind_cleared

theorem Node.cleared_cleared (n : Node) : n.cleared.cleared = n.cleared := by
  rw [cleared, cleared, n.tree.cleared_cleared]

/-! ## Structural equality -/

mutual

theorem Tree.alike_cleared : {c : Category} → (t : Tree c) → t.cleared.alike t = true
  | _, .node k isA fields => by
    have ih := fields.alike_cleared
    rw [Tree.cleared, Tree.alike_node]
    split
    · exact ih
    · exact Record.unlocated_alike _ _ ih
  | _, .inclusion i t => by rw [Tree.cleared, Tree.alike_inclusion, t.alike_cleared]

theorem Record.alike_cleared : {s : Signature} → (r : Record Tree s) → r.cleared.alike r = true
  | _, .nil => rfl
  | _, .cons f r => by
    rw [Record.cleared, Record.alike_cons, f.alike_cleared, r.alike_cleared, Bool.and_self]

theorem Field.alike_cleared : {τ : FieldType} → (f : Field Tree τ) → f.cleared.alike f = true
  | .atom a, .atom v => by rw [Field.cleared, Field.alike_atom, a.alike_refl]
  | _, .child t => by rw [Field.cleared, Field.alike_child, t.alike_cleared]
  | _, .none => rfl
  | _, .some f => by rw [Field.cleared, Field.alike_some, f.alike_cleared]
  | _, .nil => rfl
  | _, .cons f fs => by
    rw [Field.cleared, Field.alike_cons, f.alike_cleared, fs.alike_cleared, Bool.and_self]

end

theorem Node.alike_cleared (n : Node) : n.cleared.alike n = true := by
  have h := n.tree.alike_cleared
  rw [alike, cleared, h, decide_eq_true rfl, Bool.and_self]

end SqlTrees
