import SqlTrees.Name.Lowercase
import SqlTrees.Passes.Failure
import SqlTrees.Rebuild.Pass
import SqlTrees.Tree.Expression
import SqlTrees.Tree.Relation

/-! # Passes that substitute literals, names and parameters

Passes without hooks whose rules replace one kind of leaf, or a table, and leave the rest to the
standard rules.
-/

namespace SqlTrees
set_option autoImplicit false

namespace Pass

/-- The pass with no rules of its own. -/
def identity : Pass Unit UnsupportedKind where
  unsupported := id

/-- Replaces the value of every integer literal; the new literals have no location. -/
def mapIntegers (f : Int64 → Int64) : Pass Unit UnsupportedKind where
  unsupported := id
  rule?
    | .longLiteral => some fun
      | .cons (.atom value) _ => return Expression.longLiteral (f value)
    | _ => none

/-- Adds a constant to every integer literal. -/
def shiftIntegers (amount : Int64) : Pass Unit UnsupportedKind :=
  mapIntegers (· + amount)

/-- Replaces the name of every table relation; the new tables have no location. -/
def mapTables (f : QualifiedName → QualifiedName) : Pass Unit UnsupportedKind where
  unsupported := id
  rule?
    | .table => some fun
      | .cons (.atom name) _ => return Relation.table (f name)
    | _ => none

/-- Appends `_v2` to the text of every table name and parses the result. -/
def versionTables : Pass Unit UnsupportedKind :=
  mapTables fun name => .parse (name.text ++ "_v2")

/-- Puts every part of every table name in lower case, after a version of Unicode. -/
def lowercaseTables (unicode : CharacterData) : Pass Unit UnsupportedKind :=
  mapTables fun name => ⟨name.parts.map unicode.lowercase⟩

/-- Replaces the parameter at each position by the integer at that position of a list. -/
def bindParameters (values : List Int64) : Pass Unit BindError where
  unsupported := .unsupported
  rule?
    | .parameter => some fun
      | .cons (.atom position) _ =>
        match values[position.toNat]? with
        | some value => return Expression.longLiteral value
        | none => throw (.unbound position)
    | _ => none

/-- Replaces the value of every integer literal by `value * mul + add` and keeps its location. Fails
when the product or the sum is out of range. The context counts the literals seen. -/
def affine (mul add : Int64) : Pass Nat PassError where
  unsupported := .unsupported
  rule?
    | .longLiteral => some fun
      | .cons (.atom value) (.cons (.atom location) .nil) => do
        Walk.update (· + 1)
        let product := value.toInt * mul.toInt
        let sum := product + add.toInt
        if isLong product && isLong sum then
          return Expression.longLiteral (Int64.ofInt sum) location
        else
          throw (.overflow value)
    | _ => none

/-- Fails on the first integer literal, after noting its value. -/
def failOnLiteral : Pass (List Int64) UnsupportedKind where
  unsupported := id
  rule?
    | .longLiteral => some fun
      | .cons (.atom value) _ => do
        Walk.update (· ++ [value])
        throw ⟨.longLiteral⟩
    | _ => none

/-- Appends a suffix to every identifier. The context counts them. -/
def suffixIdentifiers (suffix : String) : Pass Nat UnsupportedKind where
  unsupported := id
  rule?
    | .identifier => some fun
      | .cons (.atom value) (.cons (.atom delimited) _) => do
        Walk.update (· + 1)
        return Expression.identifier (value ++ suffix) delimited
    | _ => none

end Pass
end SqlTrees
