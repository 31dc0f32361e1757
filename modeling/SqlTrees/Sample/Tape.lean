import SqlTrees.Tree

/-! # Choices from a tape

A generator takes its choices from a list of numbers, and zeros once the list is used up. How a
choice is read off the next number is fixed here: a number from a range by its remainder, a flag by
its being odd, an item of a list by its remainder.
-/

namespace SqlTrees
set_option autoImplicit false

/-- The numbers not drawn yet, and how many draws there were. -/
structure Tape where
  rest : List UInt32
  used : Nat := 0

/-- A value made from choices. -/
abbrev Gen := StateM Tape

namespace Gen
variable {α : Type}

/-- The next number of the tape. -/
def draw : Gen Nat := fun tape =>
  match tape.rest with
  | [] => (0, { tape with used := tape.used + 1 })
  | n :: rest => (n.toNat, { rest, used := tape.used + 1 })

/-- A number from `low` to `high`. -/
def range (low high : Nat) : Gen Nat := do
  let n ← draw
  return low + n % (high - low + 1)

def flag : Gen Bool := do
  let n ← draw
  return n % 2 = 1

/-- One of some choices, of which there is at least one. -/
def pick (first : α) (others : List α) : Gen α := do
  let n ← draw
  return (first :: others).getD (n % (others.length + 1)) first

/-- As many values as asked for, in order. -/
def times (g : Gen α) : Nat → Gen (List α)
  | 0 => return []
  | n + 1 => do
    let a ← g
    let rest ← times g n
    return a :: rest

/-- From `low` to `high` values. -/
def several (low high : Nat) (g : Gen α) : Gen (List α) := do
  let n ← range low high
  times g n

/-- A value, if the next flag says so. -/
def maybe (g : Gen α) : Gen (Option α) := do
  if ← flag then
    let a ← g
    return some a
  else return none

/-- A value in one case of `n + 1`. -/
def rarely (n : Nat) (g : Gen α) : Gen (Option α) := do
  if (← range 0 n) = 0 then
    let a ← g
    return some a
  else return none

end Gen
end SqlTrees
