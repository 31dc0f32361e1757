/-! # Double literals by their bits

A double is kept as its 64 bits, so that a negative zero and the payload of a NaN survive. Two
doubles are alike when their bits agree or both are NaN. `Double.ofDyadic` rounds `m / 2 ^ k` to
the nearest double, a half going to the even neighbour; whole numbers are the case `k = 0`.
-/

namespace SqlTrees
set_option autoImplicit false

/-- An IEEE 754 double, as its bits. -/
structure Double where
  bits : UInt64
deriving DecidableEq, Repr

namespace Double

/-- The eleven bits of the biased exponent. -/
def exponent (d : Double) : UInt64 :=
  (d.bits >>> 52) &&& 0x7ff

/-- The fifty-two bits below the exponent. -/
def fraction (d : Double) : UInt64 :=
  d.bits &&& 0xfffffffffffff

def isFinite (d : Double) : Bool :=
  d.exponent != 0x7ff

def isNaN (d : Double) : Bool :=
  d.exponent == 0x7ff && d.fraction != 0

/-- Equality of literals: by bits, with every NaN alike. Zero and negative zero differ. -/
def alike (a b : Double) : Bool :=
  (a.isNaN && b.isNaN) || a.bits == b.bits

/-- The NaN that stands for all of them. -/
def canonicalNaN : Double :=
  ⟨0x7ff8000000000000⟩

/-- The double with every NaN replaced by one. -/
def normal (d : Double) : Double :=
  if d.isNaN then canonicalNaN else d

/-- The nearest double to `m / 2 ^ k`, for `k` small enough that the result is a normal number.
A value halfway between two doubles goes to the one with an even fraction. -/
def ofDyadic (m k : Nat) : Double :=
  if m = 0 then ⟨0⟩
  else
    let e := m.log2
    let significand :=
      if e ≤ 52 then m <<< (52 - e)
      else
        let shift := e - 52
        let kept := m >>> shift
        let dropped := m % (1 <<< shift)
        let half := 1 <<< (shift - 1)
        if dropped > half || (dropped == half && kept % 2 == 1) then kept + 1 else kept
    let bits := ((e + 1023 - k) <<< 52) + (significand - (1 <<< 52))
    ⟨UInt64.ofNat (min bits 0x7ff0000000000000)⟩

/-- The nearest double to a whole number. -/
def ofInt (n : Int) : Double :=
  let magnitude := ofDyadic n.natAbs 0
  if n < 0 then ⟨magnitude.bits ||| 0x8000000000000000⟩ else magnitude

end Double
end SqlTrees
