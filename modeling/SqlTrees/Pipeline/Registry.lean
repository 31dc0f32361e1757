import Mathlib.Data.List.AList
import SqlTrees.Pipeline

/-! # Pipelines that are changed in place

A registry is a pipeline with an index of its slots by id. Its calls go by the index and write the
parts of the registry one at a time. A call that fails undoes nothing: what it has written until then
stays written.
-/

namespace SqlTrees
set_option autoImplicit false

structure Registry (ε : Type) where
  pipeline : Pipeline ε := {}
  /-- The slot of each registered id. -/
  index : AList (fun _ : String => Nat) := ∅

namespace Registry
variable {ε : Type}

/-! ## Registering -/

/-- A step of registering a transform. -/
abbrev Step (ε : Type) := EStateM PipelineError (Registry ε)

def unused (t : Transform ε) : Step ε Unit := fun s =>
  if t.id ∈ s.index then .error (.duplicateTransform t.id) s else .ok () s

/-- The slot of a dependency of a transform. -/
def source (t : Transform ε) (dependency : String) : Step ε Nat := fun s =>
  match s.index.lookup dependency with
  | some slot => .ok slot s
  | none => .error (.unknownDependency t.id dependency) s

def occupy (t : Transform ε) : Step ε Nat :=
  modifyGet fun s => ((s.pipeline.place t).1, { s with pipeline := (s.pipeline.place t).2 })

def connect (target source : Nat) : Step ε Unit :=
  modify fun s => { s with pipeline.edges := ⟨source, target⟩ :: s.pipeline.edges }

def enter (id : String) (slot : Nat) : Step ε Unit :=
  modify fun s => { s with index := s.index.insert id slot }

/-- Look up the id, then the dependencies one at a time, and only then write. -/
def register (t : Transform ε) : Step ε Unit := do
  unused t
  let sources ← t.dependencies.mapM (source t)
  let slot ← occupy t
  sources.forM (connect slot)
  enter t.id slot

/-! ## Removing -/

def strike (id : String) : StateM (Registry ε) Unit :=
  modify fun s => { s with index := s.index.erase id }

/-- Take the edges at a slot away. -/
def disconnect (slot : Nat) : StateM (Registry ε) Unit :=
  modify fun s => { s with
    pipeline.edges := s.pipeline.edges.filter fun e => e.source ≠ slot && e.target ≠ slot }

/-- Take the transform out of a slot and leave the slot free. -/
def vacate (slot : Nat) : StateM (Registry ε) (Option (Transform ε)) :=
  modifyGet fun s => (s.pipeline.at? slot, { s with
    pipeline.slots := s.pipeline.slots.set slot none
    pipeline.free := slot :: s.pipeline.free })

def release (id : String) (slot : Nat) : StateM (Registry ε) (Option (Transform ε)) := do
  strike id
  disconnect slot
  vacate slot

def unregister (id : String) : StateM (Registry ε) (Option (Transform ε)) := fun s =>
  match s.index.lookup id with
  | none => (none, s)
  | some slot => release id slot s

/-! ## Calls and what they answer -/

inductive Call (ε : Type)
  | add (t : Transform ε)
  | remove (id : String)
  | size
  | isEmpty
  | order
  | apply (n : Node)

inductive Response (ε : Type)
  | added
  | refused (e : PipelineError)
  | removed (t? : Option (Transform ε))
  | size (n : Nat)
  | isEmpty (b : Bool)
  | order (ids : Except PipelineError (List String))
  | applied (result : Except PipelineError (Except ε Node × Array Event))

/-- What a call answers, and the registry that it leaves. -/
def respond (s : Registry ε) : Call ε → Response ε × Registry ε
  | .add t =>
    match register t s with
    | .ok _ s => (.added, s)
    | .error e s => (.refused e, s)
  | .remove id =>
    let (t?, s) := (unregister id).run s
    (.removed t?, s)
  | .size => (.size s.index.keys.length, s)
  | .isEmpty => (.isEmpty s.index.keys.isEmpty, s)
  | .order => (.order s.pipeline.order?, s)
  | .apply n => (.applied (s.pipeline.apply n), s)

/-- What each of a sequence of calls answers. -/
def transcript (s : Registry ε) : List (Call ε) → List (Response ε)
  | [] => []
  | call :: calls => (s.respond call).1 :: (s.respond call).2.transcript calls

/-- The registry after a sequence of calls on the empty one. -/
def after (calls : List (Call ε)) : Registry ε :=
  calls.foldl (fun s call => (s.respond call).2) {}

end Registry
end SqlTrees
