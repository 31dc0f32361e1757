import SqlTrees.Rebuild.Event

/-! # Walks

A walk may fail, reads and changes a context of the pass's own, and reports events. Failing undoes
nothing: the context and the events stay as the failing step left them.
-/

namespace SqlTrees
set_option autoImplicit false

/-- What a walk carries along: the context of the pass and the events so far. -/
structure Progress (σ : Type) where
  context : σ
  events : Array Event

/-- A step of a traversal with context `σ`, failures `ε` and result `α`. -/
abbrev Walk (σ ε α : Type) := ExceptT ε (StateM (Progress σ)) α

namespace Walk
variable {σ ε α : Type}

/-- The context as it is now. -/
def context : Walk σ ε σ :=
  return (← get).context

/-- Change the context. -/
def update (f : σ → σ) : Walk σ ε Unit :=
  modify fun p => { p with context := f p.context }

/-- Report an event. -/
def report (e : Event) : Walk σ ε Unit :=
  modify fun p => { p with events := p.events.push e }

/-- Run a walk in a context of its own; the surrounding context comes back afterwards, whether the
walk succeeds or fails. -/
def within (inner : σ) (w : Walk σ ε α) : Walk σ ε α := fun p =>
  let (result, q) := w { p with context := inner }
  (result, { q with context := p.context })

/-- Run a walk from a context. -/
def start (w : Walk σ ε α) (context : σ) : Except ε α × Progress σ :=
  w { context, events := #[] }

end Walk
end SqlTrees
