import SqlTrees.Proofs.Tree.Cleared

/-! # The nodes of a tree

`Tree.nodes` lists the nodes themselves, where `Tree.kinds` lists their kinds only; the order is the
same.
-/

namespace SqlTrees
set_option autoImplicit false

/-- A node: its kind and what it holds. -/
structure Occurrence where
  kind : Kind
  fields : Record Tree kind.signature

mutual

/-- The nodes of a tree, each node before the nodes below it, and these in the order of the fields. -/
def Tree.nodes : {c : Category} → Tree c → List Occurrence
  | _, .node k _ fields => ⟨k, fields⟩ :: fields.nodes
  | _, .inclusion _ t => t.nodes

def Record.nodes : {s : Signature} → Record Tree s → List Occurrence
  | _, .nil => []
  | _, .cons f r => f.nodes ++ r.nodes

def Field.nodes : {τ : FieldType} → Field Tree τ → List Occurrence
  | _, .atom _ => []
  | _, .child t => t.nodes
  | _, .none => []
  | _, .some f => f.nodes
  | _, .nil => []
  | _, .cons f fs => f.nodes ++ fs.nodes

end

mutual

theorem Tree.map_kind_nodes : {c : Category} → (t : Tree c) →
    t.nodes.map Occurrence.kind = t.kinds
  | _, .node k _ fields => by
    rw [Tree.nodes, Tree.kinds, List.map_cons, fields.map_kind_nodes]
  | _, .inclusion _ t => by rw [Tree.nodes, Tree.kinds, t.map_kind_nodes]

theorem Record.map_kind_nodes : {s : Signature} → (r : Record Tree s) →
    r.nodes.map Occurrence.kind = r.kinds
  | _, .nil => rfl
  | _, .cons f r => by
    rw [Record.nodes, Record.kinds, List.map_append, f.map_kind_nodes, r.map_kind_nodes]

theorem Field.map_kind_nodes : {τ : FieldType} → (f : Field Tree τ) →
    f.nodes.map Occurrence.kind = f.kinds
  | _, .atom _ => rfl
  | _, .child t => by rw [Field.nodes, Field.kinds, t.map_kind_nodes]
  | _, .none => rfl
  | _, .some f => by rw [Field.nodes, Field.kinds, f.map_kind_nodes]
  | _, .nil => rfl
  | _, .cons f fs => by
    rw [Field.nodes, Field.kinds, List.map_append, f.map_kind_nodes, fs.map_kind_nodes]

end

theorem Field.nodes_of_childless : {τ : FieldType} → (f : Field Tree τ) →
    τ.childless = true → f.nodes = []
  | _, .atom _, _ => by rw [Field.nodes]
  | _, .none, _ => by rw [Field.nodes]
  | _, .some f, h => by rw [Field.nodes, f.nodes_of_childless h]
  | _, .nil, _ => by rw [Field.nodes]
  | _, .cons f fs, h => by
    rw [Field.nodes, f.nodes_of_childless h, fs.nodes_of_childless h, List.append_nil]

theorem Record.nodes_of_childless : {s : Signature} → (r : Record Tree s) →
    Signature.childless s = true → r.nodes = []
  | _, .nil, _ => by rw [Record.nodes]
  | _, .cons f r, h => by
    obtain ⟨hf, hr⟩ := Signature.childless_cons h
    rw [Record.nodes, f.nodes_of_childless hf, r.nodes_of_childless hr, List.append_nil]

theorem Field.nodes_unlocated : {τ : FieldType} → (f : Field Tree τ) → f.unlocated.nodes = f.nodes
  | .atom a, .atom v => by cases a <;> rfl
  | .child _, _ => rfl
  | .option _, _ => rfl
  | .list _, _ => rfl

theorem Record.nodes_unlocated {s : Signature} (r : Record Tree s) :
    r.unlocated.nodes = r.nodes := by
  induction r with
  | nil => rfl
  | cons f r ih =>
    rw [Record.unlocated, Record.nodes, f.nodes_unlocated, ih]
    rfl

end SqlTrees
