import SqlTrees.Double

/-! # JSON values

Whole numbers and doubles are kept apart, because a number written with a fraction is no integer to
the formats of this library. Objects keep their members in order; a reader looks a member up by its
name, the first of that name.
-/

namespace SqlTrees
set_option autoImplicit false

inductive Json
  | null
  | bool (value : Bool)
  | int (value : Int)
  | double (value : Double)
  | str (value : String)
  | arr (items : List Json)
  | obj (members : List (String × Json))
deriving Inhabited

namespace Json

/-- The values of the named fields of a structure: an object has some of them under their names,
an array has all of them in the order of the names. -/
def fields? (names : List String) : Json → Option (List (Option Json))
  | .obj members => some (names.map fun name => members.lookup name)
  | .arr items => if items.length = names.length then some (items.map some) else none
  | _ => none

/-- A whole number from zero up to a bound. -/
def natBelow? (bound : Nat) : Json → Option Nat
  | .int n => if 0 ≤ n ∧ n < bound then some n.toNat else none
  | _ => none

end Json
end SqlTrees
