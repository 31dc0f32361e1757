import SqlTrees.Rebuild.Pass
import SqlTrees.Tree.Expression

/-! # Shifting integers inside select lists

Two passes that add a constant to the integer literals inside a select list and to no others. One
counts the select lists around a node by its hooks; the other hands the items of a select list a
context of their own.
-/

namespace SqlTrees
set_option autoImplicit false

namespace Pass

/-- Shifts the literals that have a select list around them. The context is the number of these
lists, without a bound. A 64-bit counter has the same values from every start that stays below
`UInt64.size` when the deepest nesting of select lists in the tree is added, so from zero for every
tree that fits into memory. It never falls below its start, since a list is entered before it is
left. -/
def shiftSelectedIntegers (amount : Int64) : Pass Nat UnsupportedKind where
  unsupported := id
  preVisit k := if k = .select then Walk.update (· + 1) else pure ()
  postVisit k := if k = .select then Walk.update (· - 1) else pure ()
  rule?
    | .longLiteral => some fun fields => do
      let depth ← Walk.context
      match depth, fields with
      | 0, fields => return .ofFields .longLiteral fields.before
      | _ + 1, .cons (.atom value) _ => return Expression.longLiteral (value + amount)
    | _ => none

/-- Shifts the literals for which the context is true. A select list rebuilds its items with true;
the context around it is not touched. -/
def shiftSelectedByContext (amount : Int64) : Pass Bool UnsupportedKind where
  unsupported := id
  rule?
    | .select => some fun fields => do
      return .ofFields .select (← Walk.within true fields.rebuilt).unlocated
    | .longLiteral => some fun fields => do
      let inSelect ← Walk.context
      match inSelect, fields with
      | false, fields => return .ofFields .longLiteral fields.before
      | true, .cons (.atom value) _ => return Expression.longLiteral (value + amount)
    | _ => none

end Pass
end SqlTrees
