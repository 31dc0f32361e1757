import SqlTrees.Rebuild.Pass
import SqlTrees.Tree.Clause
import SqlTrees.Tree.Expression
import SqlTrees.Tree.Relation
import SqlTrees.Tree.Statement

/-! # Passes over conditions, column references and catalogs

Passes whose rules look at a node's children, before or after rebuilding them.
-/

namespace SqlTrees
set_option autoImplicit false

/-- The operand of a NOT. -/
def Expression.negated? : Expression → Option Expression
  | .not operand _ => some operand
  | _ => none

/-- Whether an expression is the identifier of a given name, delimited or not. -/
def Expression.isIdentifier (name : String) : Expression → Bool
  | .identifier value _ _ => value = name
  | _ => false

namespace Pass

/-- Negates the condition of every ON; USING and NATURAL joins stay as they are. -/
def negateOnConditions : Pass Unit UnsupportedKind where
  unsupported := id
  rule?
    | .joinOn => some fun
      | .cons (.child condition) .nil => do
        return JoinCriteria.onCondition (.not (← condition.rebuilt))
    | _ => none

/-- Removes every NOT of a NOT, from the inside out. The context counts the pairs removed, without
a bound. -/
def dropDoubleNot : Pass Nat UnsupportedKind where
  unsupported := id
  rule?
    | .not => some fun
      | .cons (.child operand) _ => do
        let operand ← operand.rebuilt
        match Expression.negated? operand with
        | some inner =>
          Walk.update (· + 1)
          return inner
        | none => return Expression.not operand
    | _ => none

/-- Renames the qualifier `t` of a column reference to `u`. The context counts the dereferences, of
whatever base and without a bound. A 64-bit counter has the same values from every start that stays
below `UInt64.size` when the number of dereferences in the tree is added, so from zero for every
tree that fits into memory. -/
def requalifyColumns : Pass Nat UnsupportedKind where
  unsupported := id
  rule?
    | .dereference => some fun
      | .cons (.child base) (.cons (.atom field) _) => do
        Walk.update (· + 1)
        let base ←
          if Expression.isIdentifier "t" base.tree then pure (Expression.identifier "u")
          else base.rebuilt
        return Expression.dereference base field
    | _ => none

/-- What `stripCatalog` notes about a tree. -/
structure CatalogNotes where
  hasBooleanLiterals : Bool := false
deriving DecidableEq, Repr

/-- Drops the first of exactly three parts of a table's name, and the first part of the name of a
`SHOW COLUMNS`; notes whether there are boolean literals. -/
def stripCatalog : Pass CatalogNotes UnsupportedKind where
  unsupported := id
  rule?
    | .table => some fun
      | .cons (.atom name) (.cons (.atom location) .nil) =>
        if name.parts.length = 3 then do
          Walk.report (.strippingCatalog name)
          return Relation.table ⟨name.parts.drop 1⟩
        else
          return Relation.table name location
    | .showColumns => some fun
      | .cons (.atom name) _ => return Statement.showColumns ⟨name.parts.drop 1⟩
    | .booleanLiteral => some fun fields => do
      Walk.update fun notes => { notes with hasBooleanLiterals := true }
      return .ofFields .booleanLiteral fields.before
    | _ => none

end Pass
end SqlTrees
