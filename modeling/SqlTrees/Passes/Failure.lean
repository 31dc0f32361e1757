import SqlTrees.Rebuild.Event

/-! # Failures of passes

Each pass fails in its own way; a pass with failures of its own also carries the failure on an
unsupported kind. `Failure` is any of them, for passes that run side by side.
-/

namespace SqlTrees
set_option autoImplicit false

/-- Failures of the pass that binds parameters. -/
inductive BindError
  | unbound (position : UInt64)
  | unsupported (e : UnsupportedKind)
deriving DecidableEq, Repr

def BindError.message : BindError → String
  | .unbound position => "no value for parameter " ++ toString position.toNat
  | .unsupported e => e.message

/-- Failures of the pass that resolves spatial predicates. -/
inductive SpatialError
  | arity (function : String)
  | notAPoint
  | notAShape
  | outsidePredicate
  | unsupported (e : UnsupportedKind)
deriving DecidableEq, Repr

def SpatialError.message : SpatialError → String
  | .arity function => "wrong number of arguments to function " ++ function
  | .notAPoint => "wrong first argument to function CONTAINS: not a POINT"
  | .notAShape => "wrong second argument to function CONTAINS: not a shape"
  | .outsidePredicate => "CONTAINS is only allowed inside a predicate"
  | .unsupported e => e.message

/-- The two hooks around a visit. -/
inductive Phase
  | pre
  | post
deriving DecidableEq, Repr

def Phase.name : Phase → String
  | .pre => "pre"
  | .post => "post"

/-- Failures of passes that are made to fail. -/
inductive PassError
  | hook (phase : Phase) (kind : Kind) (nth : Nat)
  | rule (name : String)
  | overflow (value : Int64)
  | unsupported (e : UnsupportedKind)
deriving DecidableEq, Repr

def PassError.message : PassError → String
  | .hook phase kind nth =>
    phase.name ++ " hook failed on " ++ kind.name ++ " number " ++ toString nth
  | .rule name => "rule " ++ name ++ " failed"
  | .overflow value => "value " ++ toString value.toInt ++ " overflows"
  | .unsupported e => e.message

/-- A failure of any pass. -/
inductive Failure
  | unsupported (e : UnsupportedKind)
  | bind (e : BindError)
  | spatial (e : SpatialError)
  | pass (e : PassError)
deriving DecidableEq, Repr

def Failure.message : Failure → String
  | .unsupported e => e.message
  | .bind e => e.message
  | .spatial e => e.message
  | .pass e => e.message

end SqlTrees
