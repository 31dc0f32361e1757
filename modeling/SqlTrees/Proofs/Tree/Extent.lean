import SqlTrees.Proofs.Tree.Nodes

/-! # How deep a tree is, and how far a traversal of it gets

* `Tree.height`: the number of nodes on the longest chain from the root down.
* `Tree.blocked?`: the first node without a rule, with the kinds above it.
* `Tree.completed`: the nodes that are finished by the time a traversal comes to that node.
-/

namespace SqlTrees
set_option autoImplicit false

/-! ## Height -/

mutual

def Tree.height : {c : Category} → Tree c → Nat
  | _, .node _ _ fields => fields.height + 1
  | _, .inclusion _ t => t.height

def Record.height : {s : Signature} → Record Tree s → Nat
  | _, .nil => 0
  | _, .cons f r => max f.height r.height

def Field.height : {τ : FieldType} → Field Tree τ → Nat
  | _, .atom _ => 0
  | _, .child t => t.height
  | _, .none => 0
  | _, .some f => f.height
  | _, .nil => 0
  | _, .cons f fs => max f.height fs.height

end

/-! ## The first node without a rule -/

/-- A node that no rule rebuilds, by its kind and the kinds of the nodes above it, from the root
down. -/
structure Blocked where
  above : List Kind
  kind : Kind
deriving DecidableEq, Repr

namespace Blocked

/-- The kinds from the root down to the node itself. -/
def path (b : Blocked) : List Kind :=
  b.above ++ [b.kind]

/-- The same node, seen from one node further up. -/
def under (k : Kind) (b : Blocked) : Blocked :=
  { b with above := k :: b.above }

theorem path_under (k : Kind) (b : Blocked) : (b.under k).path = k :: b.path := rfl

end Blocked

mutual

/-- The first node without a rule, in the order of `Tree.kinds`. -/
def Tree.blocked? : {c : Category} → Tree c → Option Blocked
  | _, .node k _ fields =>
    if k ∈ Kind.unruled then some ⟨[], k⟩ else fields.blocked?.map (.under k)
  | _, .inclusion _ t => t.blocked?

def Record.blocked? : {s : Signature} → Record Tree s → Option Blocked
  | _, .nil => none
  | _, .cons f r => f.blocked?.or r.blocked?

def Field.blocked? : {τ : FieldType} → Field Tree τ → Option Blocked
  | _, .atom _ => none
  | _, .child t => t.blocked?
  | _, .none => none
  | _, .some f => f.blocked?
  | _, .nil => none
  | _, .cons f fs => f.blocked?.or fs.blocked?

end

mutual

theorem Tree.map_kind_blocked? : {c : Category} → (t : Tree c) →
    t.blocked?.map Blocked.kind = t.kinds.find? (· ∈ Kind.unruled)
  | _, .node k _ fields => by
    rw [Tree.blocked?, Tree.kinds]
    by_cases hu : k ∈ Kind.unruled
    · rw [if_pos hu, List.find?_cons_of_pos (by simpa using hu)]
      rfl
    · rw [if_neg hu, List.find?_cons_of_neg (by simpa using hu), ← fields.map_kind_blocked?,
        Option.map_map]
      rfl
  | _, .inclusion _ t => by rw [Tree.blocked?, Tree.kinds, t.map_kind_blocked?]

theorem Record.map_kind_blocked? : {s : Signature} → (r : Record Tree s) →
    r.blocked?.map Blocked.kind = r.kinds.find? (· ∈ Kind.unruled)
  | _, .nil => rfl
  | _, .cons f r => by
    rw [Record.blocked?, Record.kinds, Option.map_or, List.find?_append, f.map_kind_blocked?,
      r.map_kind_blocked?]

theorem Field.map_kind_blocked? : {τ : FieldType} → (f : Field Tree τ) →
    f.blocked?.map Blocked.kind = f.kinds.find? (· ∈ Kind.unruled)
  | _, .atom _ => rfl
  | _, .child t => by rw [Field.blocked?, Field.kinds, t.map_kind_blocked?]
  | _, .none => rfl
  | _, .some f => by rw [Field.blocked?, Field.kinds, f.map_kind_blocked?]
  | _, .nil => rfl
  | _, .cons f fs => by
    rw [Field.blocked?, Field.kinds, Option.map_or, List.find?_append, f.map_kind_blocked?,
      fs.map_kind_blocked?]

end

theorem Record.blocked?_of_childless {s : Signature} (r : Record Tree s)
    (h : Signature.childless s = true) : r.blocked? = none := by
  rw [← Option.map_eq_none_iff (f := Blocked.kind), r.map_kind_blocked?, ← r.map_kind_nodes,
    r.nodes_of_childless h]
  rfl

/-! ## Nodes finished before it -/

mutual

/-- The kinds of the nodes that stand, with everything below them, before the first node without a
rule; of all nodes, if there is none without. -/
def Tree.completed : {c : Category} → Tree c → List Kind
  | _, .node k _ fields =>
    if k ∈ Kind.unruled then []
    else
      match fields.blocked? with
      | none => k :: fields.kinds
      | some _ => fields.completed
  | _, .inclusion _ t => t.completed

def Record.completed : {s : Signature} → Record Tree s → List Kind
  | _, .nil => []
  | _, .cons f r =>
    match f.blocked? with
    | none => f.kinds ++ r.completed
    | some _ => f.completed

def Field.completed : {τ : FieldType} → Field Tree τ → List Kind
  | _, .atom _ => []
  | _, .child t => t.completed
  | _, .none => []
  | _, .some f => f.completed
  | _, .nil => []
  | _, .cons f fs =>
    match f.blocked? with
    | none => f.kinds ++ fs.completed
    | some _ => f.completed

end

end SqlTrees
