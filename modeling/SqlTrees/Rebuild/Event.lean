import SqlTrees.Grammar.Kind

/-! # Events and failures of a traversal

What a traversal reports while it runs, and the one failure of its own. Each has its wording in one
place, `Event.text` and `UnsupportedKind.message`.
-/

namespace SqlTrees
set_option autoImplicit false

/-- A traversal reached a kind that no rule rebuilds. -/
structure UnsupportedKind where
  kind : Kind
deriving DecidableEq, Repr

def UnsupportedKind.message (e : UnsupportedKind) : String :=
  "no reconstruction rule for node kind `" ++ e.kind.name ++ "`"

/-- What is reported while trees are rebuilt. -/
inductive Event
  /-- A pass starts on a tree. -/
  | rebuildingTree (kind : Kind)
  /-- The rule of a node is about to run. -/
  | rebuildingNode (kind : Kind)
  | unsupported (kind : Kind)
  | applyingTransform (id : String)
  | strippingCatalog (table : QualifiedName)
  | spatialCall (function : String)
  /-- A counting pass leaves a node that has `depth` nodes open above it. -/
  | closed (kind : Kind) (depth : Nat)
deriving DecidableEq, Repr

/-- The line that an event is reported as. -/
def Event.text : Event → String
  | .rebuildingTree k => "DEBUG rebuilding tree kind=" ++ k.name
  | .rebuildingNode k => "TRACE rebuilding node kind=" ++ k.name
  | .unsupported k => "DEBUG no reconstruction rule for node kind kind=" ++ k.name
  | .applyingTransform id => "DEBUG applying transform transform=" ++ id
  | .strippingCatalog table => "DEBUG stripping catalog table=" ++ table.text
  | .spatialCall function => "DEBUG rewriting CONTAINS function=" ++ function
  | .closed k depth => "TRACE closed kind=" ++ k.name ++ " depth=" ++ toString depth

end SqlTrees
