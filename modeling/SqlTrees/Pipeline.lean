import SqlTrees.Pipeline.Search
import SqlTrees.Rebuild.Pass

/-! # Pipelines of passes

Transforms are registered under ids of their own and name the transforms that must run before them.
Each registered transform has a slot; the slot of a removed one is free, and the slot freed last is
taken first. `Pipeline.order?` lists the transforms by depth-first finishing order, `Pipeline.apply`
runs them in that order and stops at the first failure.
-/

namespace SqlTrees
set_option autoImplicit false

/-- What a pass without its types does to a tree: the result or failure, and the events. -/
abbrev Run (ε : Type) := Node → Except ε Node × Array Event

/-- A pass as a run, from a given context and with its failures in a common form. -/
def Pass.toRun {σ ε φ : Type} (P : Pass σ ε) (context : σ) (wrap : ε → φ) : Run φ := fun n =>
  let (result, progress) := (P.rebuild n).start context
  (result.mapError wrap, progress.events)

/-- A pass that is registered under an id. -/
structure Transform (ε : Type) where
  id : String
  /-- The ids of the transforms that must run before this one. -/
  dependencies : List String
  run : Run ε

/-- Why transforms cannot be registered or put in order. -/
inductive PipelineError
  | duplicateTransform (id : String)
  | unknownDependency (id dependency : String)
  | cycle (id : String)
deriving DecidableEq, Repr

def PipelineError.message : PipelineError → String
  | .duplicateTransform id => "transform `" ++ id ++ "` is already registered"
  | .unknownDependency id dependency =>
    "transform `" ++ id ++ "` depends on unknown transform `" ++ dependency ++ "`"
  | .cycle id => "transform dependencies form a cycle through `" ++ id ++ "`"

/-- A dependency between the transforms in two slots: the first runs before the second. -/
structure Edge where
  source : Nat
  target : Nat
deriving DecidableEq, Repr

/-- Registered transforms and their dependencies. -/
structure Pipeline (ε : Type) where
  /-- The transform in each slot; a slot without one is free. -/
  slots : List (Option (Transform ε)) := []
  /-- The free slots, the one freed last first. -/
  free : List Nat := []
  /-- The dependencies, the newest first. -/
  edges : List Edge := []

namespace Pipeline
variable {ε : Type}

def empty : Pipeline ε :=
  {}

/-- The transform in a slot. -/
def at? (p : Pipeline ε) (slot : Nat) : Option (Transform ε) :=
  (p.slots[slot]?).join

/-- The slot of the transform with a given id. -/
def slotOf? (p : Pipeline ε) (id : String) : Option Nat :=
  p.slots.findIdx? fun t => t.any fun t => t.id = id

/-- The slots in use, in ascending order. -/
def used (p : Pipeline ε) : List Nat :=
  (List.range p.slots.length).filter fun slot => (p.at? slot).isSome

def size (p : Pipeline ε) : Nat :=
  p.used.length

def isEmpty (p : Pipeline ε) : Bool :=
  p.size = 0

/-! ## Adding and removing -/

/-- The slots of the dependencies, or the first one that is not registered. -/
def resolve (p : Pipeline ε) : List String → Except String (List Nat)
  | [] => .ok []
  | id :: ids =>
    match p.slotOf? id with
    | none => .error id
    | some slot => (p.resolve ids).map (slot :: ·)

/-- Put a transform into the slot freed last, or into a new one. -/
def place (p : Pipeline ε) (t : Transform ε) : Nat × Pipeline ε :=
  match p.free with
  | slot :: free => (slot, { p with slots := p.slots.set slot (some t), free })
  | [] => (p.slots.length, { p with slots := p.slots ++ [some t] })

/-- Register a transform. Its id must be new, and its dependencies registered. -/
def add (p : Pipeline ε) (t : Transform ε) : Except PipelineError (Pipeline ε) :=
  if (p.slotOf? t.id).isSome then .error (.duplicateTransform t.id)
  else
    match p.resolve t.dependencies with
    | .error dependency => .error (.unknownDependency t.id dependency)
    | .ok sources =>
      let (slot, p) := p.place t
      .ok { p with edges := (sources.map fun source => ⟨source, slot⟩).reverse ++ p.edges }

/-- Remove the transform with a given id, and every dependency it has a part in. -/
def remove (p : Pipeline ε) (id : String) : Option (Transform ε × Pipeline ε) := do
  let slot ← p.slotOf? id
  let t ← p.at? slot
  return (t,
    { slots := p.slots.set slot none
      free := slot :: p.free
      edges := p.edges.filter fun e => e.source ≠ slot && e.target ≠ slot })

/-! ## Order -/

/-- The slots that depend on a slot, by the newest dependency first. -/
def successors (p : Pipeline ε) (slot : Nat) : List Nat :=
  (p.edges.filter fun e => e.source = slot).map Edge.target

/-- The slots that a slot depends on. -/
def predecessors (p : Pipeline ε) (slot : Nat) : List Nat :=
  (p.edges.filter fun e => e.target = slot).map Edge.source

/-- The slots in use by depth-first finishing order. Every slot is discovered once and every edge
puts at most one slot on the stack, which bounds the steps of a search. -/
def finishingOrder (p : Pipeline ε) : List Nat :=
  (Search.exploreAll p.successors (2 * p.slots.length + p.edges.length + 1) p.used).finished

/-- A slot that some slot of a list depends on without standing before it. -/
def misplaced? (p : Pipeline ε) (earlier : List Nat) : List Nat → Option Nat
  | [] => none
  | slot :: rest =>
    match (p.predecessors slot).reverse.find? fun source => source ∉ earlier with
    | some source => some source
    | none => p.misplaced? (slot :: earlier) rest

/-- The transforms in an order that respects their dependencies. -/
def sorted? (p : Pipeline ε) : Except PipelineError (List (Transform ε)) :=
  let order := p.finishingOrder
  match p.misplaced? [] order with
  | some slot => .error (.cycle ((p.at? slot).elim "" Transform.id))
  | none => .ok (order.filterMap p.at?)

/-- The ids of the transforms in the order in which they run. -/
def order? (p : Pipeline ε) : Except PipelineError (List String) :=
  p.sorted?.map fun transforms => transforms.map Transform.id

/-! ## Running -/

/-- Run transforms one after another, each on the result of the one before. -/
def runAll : List (Transform ε) → Run ε
  | [], n => (.ok n, #[])
  | t :: rest, n =>
    let (result, events) := t.run n
    let events := #[Event.applyingTransform t.id] ++ events
    match result with
    | .error e => (.error e, events)
    | .ok n =>
      let (result, more) := runAll rest n
      (result, events ++ more)

/-- Run every transform on a tree in order. -/
def apply (p : Pipeline ε) (n : Node) : Except PipelineError (Except ε Node × Array Event) :=
  p.sorted?.map fun transforms => runAll transforms n

end Pipeline
end SqlTrees
