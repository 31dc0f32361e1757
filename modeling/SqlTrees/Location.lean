/-! # Source positions

A location is a position in the parsed text, or nothing for a node that some pass built. -/

namespace SqlTrees
set_option autoImplicit false

/-- A point in the parsed text; lines and columns count from one. -/
structure Position where
  line : UInt64
  column : UInt64
deriving DecidableEq, Repr

/-- Where a node was parsed, if anywhere. -/
abbrev Location := Option Position

/-- A location as shown in a diagnostic. -/
def Location.text : Location → String
  | some p => toString p.line.toNat ++ ":" ++ toString p.column.toNat
  | none => "<rebuilt>"

end SqlTrees
