import SqlTrees.Proofs.Tree.Extent

/-! # Where the nodes of a tree stand

* `Situated`: a node with the kinds of the nodes above it.
* `Tree.situated`: the nodes of a tree with their places, in the order of `Tree.nodes`.
* `Tree.finished`: the nodes that a traversal finishes, in the order in which it finishes them.
-/

namespace SqlTrees
set_option autoImplicit false

/-- A node, with the kinds of the nodes above it from the root down. -/
structure Situated where
  above : List Kind
  node : Occurrence

namespace Situated

/-- The kinds from the root down to the node itself. -/
def path (x : Situated) : List Kind :=
  x.above ++ [x.node.kind]

/-- The same node, seen from one node further up. -/
def under (k : Kind) (x : Situated) : Situated :=
  { x with above := k :: x.above }

theorem path_under (k : Kind) (x : Situated) : (x.under k).path = k :: x.path := rfl

end Situated

/-! ## All nodes -/

mutual

/-- The nodes of a tree, each node before the nodes below it. -/
def Tree.situated : {c : Category} → Tree c → List Situated
  | _, .node k _ fields => ⟨[], k, fields⟩ :: fields.situated.map (.under k)
  | _, .inclusion _ t => t.situated

def Record.situated : {s : Signature} → Record Tree s → List Situated
  | _, .nil => []
  | _, .cons f r => f.situated ++ r.situated

def Field.situated : {τ : FieldType} → Field Tree τ → List Situated
  | _, .atom _ => []
  | _, .child t => t.situated
  | _, .none => []
  | _, .some f => f.situated
  | _, .nil => []
  | _, .cons f fs => f.situated ++ fs.situated

end

theorem Situated.map_node_under (k : Kind) (xs : List Situated) :
    (xs.map (.under k)).map Situated.node = xs.map Situated.node := by
  rw [List.map_map]
  rfl

mutual

theorem Tree.map_node_situated : {c : Category} → (t : Tree c) →
    t.situated.map Situated.node = t.nodes
  | _, .node k _ fields => by
    rw [Tree.situated, Tree.nodes, List.map_cons, Situated.map_node_under,
      fields.map_node_situated]
  | _, .inclusion _ t => by rw [Tree.situated, Tree.nodes, t.map_node_situated]

theorem Record.map_node_situated : {s : Signature} → (r : Record Tree s) →
    r.situated.map Situated.node = r.nodes
  | _, .nil => rfl
  | _, .cons f r => by
    rw [Record.situated, Record.nodes, List.map_append, f.map_node_situated, r.map_node_situated]

theorem Field.map_node_situated : {τ : FieldType} → (f : Field Tree τ) →
    f.situated.map Situated.node = f.nodes
  | _, .atom _ => rfl
  | _, .child t => by rw [Field.situated, Field.nodes, t.map_node_situated]
  | _, .none => rfl
  | _, .some f => by rw [Field.situated, Field.nodes, f.map_node_situated]
  | _, .nil => rfl
  | _, .cons f fs => by
    rw [Field.situated, Field.nodes, List.map_append, f.map_node_situated, fs.map_node_situated]

end

/-! ## Finished nodes -/

mutual

/-- The nodes that stand, with everything below them, before the first node without a rule, each
node after the nodes below it; all nodes, if there is none without. -/
def Tree.finished : {c : Category} → Tree c → List Situated
  | _, .node k _ fields =>
    if k ∈ Kind.unruled then []
    else
      match fields.blocked? with
      | none => fields.finished.map (.under k) ++ [⟨[], k, fields⟩]
      | some _ => fields.finished.map (.under k)
  | _, .inclusion _ t => t.finished

def Record.finished : {s : Signature} → Record Tree s → List Situated
  | _, .nil => []
  | _, .cons f r =>
    match f.blocked? with
    | none => f.finished ++ r.finished
    | some _ => f.finished

def Field.finished : {τ : FieldType} → Field Tree τ → List Situated
  | _, .atom _ => []
  | _, .child t => t.finished
  | _, .none => []
  | _, .some f => f.finished
  | _, .nil => []
  | _, .cons f fs =>
    match f.blocked? with
    | none => f.finished ++ fs.finished
    | some _ => f.finished

end

end SqlTrees
