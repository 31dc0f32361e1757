import SqlTrees.Rebuild.Walk
import SqlTrees.Tree

/-! # Passes

A pass rebuilds a tree from the bottom up. For each kind it may bring a rule of its own; the
standard rule copies a leaf, rebuilds the children of a composite in order and drops its location,
and fails on an unsupported kind. Hooks run before and after the rule of every node.

A rule is given its node's fields with, at each child position, the child as it stands and the
action that rebuilds it (`Child`). It decides whether, when and in which context to perform the
actions. Since a rule can only ever act on the children of its own node, a traversal follows the
tree's structure and always ends, whatever the rules do.

A pass may also replace the dispatcher of a category, which then stands in for hooks, event and
rule alike, or the two entry points over nodes of any family.
-/

namespace SqlTrees
set_option autoImplicit false

/-- A child of a node that is being rebuilt. -/
structure Child (σ ε : Type) (c : Category) where
  tree : Tree c
  /-- Rebuild the child. -/
  rebuilt : Walk σ ε (Tree c)

/-- How nodes of a kind are rebuilt. -/
abbrev Rule (σ ε : Type) (k : Kind) :=
  Record (Child σ ε) k.signature → Walk σ ε (Tree k.category)

/-- A pass with context `σ` and failures `ε`. -/
structure Pass (σ ε : Type) where
  /-- The pass's own form of the failure on an unsupported kind. -/
  unsupported : UnsupportedKind → ε
  /-- Runs before the rule of each visited node. -/
  preVisit : Kind → Walk σ ε Unit := fun _ => pure ()
  /-- Runs after the rule of each visited node has succeeded. -/
  postVisit : Kind → Walk σ ε Unit := fun _ => pure ()
  /-- The rules that differ from the standard one. -/
  rule? : (k : Kind) → Option (Rule σ ε k) := fun _ => none
  /-- Dispatchers that replace the visit of a child of a category. -/
  dispatch? : (c : Category) → Option (Tree c → Walk σ ε (Tree c)) := fun _ => none
  /-- Replaces the dispatch of a node to its family. -/
  process? : Option (Node → Walk σ ε Node) := none
  /-- Replaces the entry point. -/
  rebuild? : Option (Node → Walk σ ε Node) := none

/-! ## Records of children -/

section Traverse
variable {X Y : Category → Type} {m : Type → Type} [Monad m]

/-- Perform an action at every child position of a field, in order. -/
def Field.traverse (f : {c : Category} → X c → m (Y c)) :
    {τ : FieldType} → Field X τ → m (Field Y τ)
  | _, .atom v => return .atom v
  | _, .child x => return .child (← f x)
  | _, .none => return .none
  | _, .some g => return .some (← g.traverse f)
  | _, .nil => return .nil
  | _, .cons g gs => return .cons (← g.traverse f) (← gs.traverse f)

/-- Perform an action at every child position of a record, in order. -/
def Record.traverse (f : {c : Category} → X c → m (Y c)) :
    {s : Signature} → Record X s → m (Record Y s)
  | _, .nil => return .nil
  | _, .cons g r => return .cons (← g.traverse f) (← r.traverse f)

end Traverse

/-- The field without its position in the source, if it is a location. -/
def Field.unlocated {X : Category → Type} : {τ : FieldType} → Field X τ → Field X τ
  | .atom .location, .atom _ => .atom Option.none
  | _, f => f

/-- The record with no location. -/
def Record.unlocated {X : Category → Type} : {s : Signature} → Record X s → Record X s
  | _, .nil => .nil
  | _, .cons f r => .cons f.unlocated r.unlocated

/-- Rebuild every child in order. -/
def Record.rebuilt {σ ε : Type} {s : Signature} (fields : Record (Child σ ε) s) :
    Walk σ ε (Record Tree s) :=
  fields.traverse Child.rebuilt

/-- The record as it stood before. -/
def Record.before {σ ε : Type} {s : Signature} (fields : Record (Child σ ε) s) : Record Tree s :=
  fields.map Child.tree

/-! ## The traversal -/

namespace Pass
variable {σ ε : Type} (P : Pass σ ε)

/-- What happens to a kind without a rule of its own. -/
def standardRule (k : Kind) : Rule σ ε k := fun fields =>
  match k.treatment with
  | .leaf => return .ofFields k fields.before
  | .composite => return .ofFields k (← fields.rebuilt).unlocated
  | .unsupported => do
    Walk.report (.unsupported k)
    throw (P.unsupported ⟨k⟩)

/-- The rule in force for a kind. -/
def rule (k : Kind) : Rule σ ε k :=
  (P.rule? k).getD (P.standardRule k)

/-- Run a node's rule between the hooks. -/
def visited {α : Type} (k : Kind) (rule : Walk σ ε α) : Walk σ ε α := do
  P.preVisit k
  Walk.report (.rebuildingNode k)
  let result ← rule
  P.postVisit k
  return result

/-- Visit a child, unless its category's dispatcher is replaced. -/
def dispatch {c : Category} (t : Tree c) (visit : Walk σ ε (Tree c)) : Walk σ ε (Tree c) :=
  match P.dispatch? c with
  | some f => f t
  | none => visit

end Pass

/-- Whether an included tree goes through the dispatcher of its own category. A query that is a
statement, and a set operation that is a relation, is rebuilt in the statement's or relation's own
visit; an element of a table is handed on. -/
def Inclusion.dispatches {a b : Category} : Inclusion a b → Bool
  | .columnElement | .likeElement => true
  | .queryStatement | .relationSetOperation => false

section Visit
variable {σ ε : Type} (P : Pass σ ε)

mutual

/-- Visit a tree: run the hooks and the rule of its node. -/
def Tree.visit : {c : Category} → Tree c → Walk σ ε (Tree c)
  | _, .node k rfl fields => P.visited k (P.rule k fields.attach)
  | _, .inclusion i t => do
    let t ← if i.dispatches then P.dispatch t t.visit else t.visit
    return .inclusion i t

/-- Pair every child of a record with its rebuilding. -/
def Record.attach : {s : Signature} → Record Tree s → Record (Child σ ε) s
  | _, .nil => .nil
  | _, .cons f r => .cons f.attach r.attach

/-- Pair every child of a field with its rebuilding. -/
def Field.attach : {τ : FieldType} → Field Tree τ → Field (Child σ ε) τ
  | _, .atom v => .atom v
  | _, .child t => .child ⟨t, P.dispatch t t.visit⟩
  | _, .none => .none
  | _, .some f => .some f.attach
  | _, .nil => .nil
  | _, .cons f fs => .cons f.attach fs.attach

end

theorem Tree.visit_node (k : Kind) (fields : Record Tree k.signature) :
    (Tree.ofFields k fields).visit P = P.visited k (P.rule k (fields.attach P)) := rfl

mutual

/-- A rule sees the fields of its node as they stand. -/
@[simp]
theorem Record.before_attach : {s : Signature} → (r : Record Tree s) → (r.attach P).before = r
  | _, .nil => rfl
  | _, .cons f r => by
    have ih := r.before_attach
    rw [Record.before] at ih ⊢
    rw [Record.attach, Record.map, f.map_attach, ih]

/-- A field's children are the subjects of what they are paired with. -/
theorem Field.map_attach : {τ : FieldType} → (f : Field Tree τ) → (f.attach P).map Child.tree = f
  | _, .atom _ => rfl
  | _, .child _ => rfl
  | _, .none => rfl
  | _, .some f => by rw [Field.attach, Field.map, f.map_attach]
  | _, .nil => rfl
  | _, .cons f fs => by rw [Field.attach, Field.map, f.map_attach, fs.map_attach]

end

end Visit

namespace Pass
variable {σ ε : Type} (P : Pass σ ε)

/-- Dispatch a node to its family. The result is a node of the same family. -/
def process (n : Node) : Walk σ ε Node :=
  match P.process? with
  | some f => f n
  | none => return { n with tree := (← P.dispatch n.tree (n.tree.visit P)) }

/-- Rebuild a tree from its root. -/
def rebuild (n : Node) : Walk σ ε Node :=
  match P.rebuild? with
  | some f => f n
  | none => do
    Walk.report (.rebuildingTree n.kind)
    P.process n

end Pass
end SqlTrees
