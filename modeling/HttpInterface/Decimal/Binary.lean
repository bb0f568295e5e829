/-!
# `HttpInterface.Decimal.Binary`: the number that a double holds

A finite double is a sign and a magnitude `m · 2^q` with natural `m`. Both are
read off its bits, so that everything else is exact arithmetic.
-/

set_option autoImplicit false

namespace HttpInterface.Decimal

/-- The power `2^n`. -/
def twoPow (n : Nat) : Nat := Nat.pow 2 n

/-- A finite double: its sign, and its magnitude `significand · 2^exponent`. -/
structure Binary where
  negative : Bool
  significand : Nat
  exponent : Int
  /-- The gap below the number is half as wide as the gap above it. -/
  narrowBelow : Bool
  deriving DecidableEq, Repr

namespace Binary

/-- A double with its sign bit set. -/
def signBit (x : Float) : Bool :=
  x.toBits.toNat / twoPow 63 == 1

/-- The number of a double, if it is finite. -/
def ofFloat? (x : Float) : Option Binary :=
  let bits := x.toBits.toNat
  let exponent : Nat := bits / twoPow 52 % twoPow 11
  let fraction : Nat := bits % twoPow 52
  if exponent = 2047 then none
  else if exponent = 0 then some ⟨signBit x, fraction, -1074, false⟩
  else
    some ⟨signBit x, fraction + twoPow 52, (exponent : Int) - 1075, fraction == 0 && exponent > 1⟩

/-- The integer that the number is, if it is one. -/
def whole? (b : Binary) : Option Int :=
  let magnitude : Option Nat :=
    if 0 ≤ b.exponent then some (b.significand * twoPow b.exponent.toNat)
    else
      let divisor := twoPow (-b.exponent).toNat
      if b.significand % divisor = 0 then some (b.significand / divisor) else none
  magnitude.map fun n => if b.negative then -(n : Int) else n

end Binary

/-- The integer that a double is equal to. -/
def whole? (x : Float) : Option Int :=
  (Binary.ofFloat? x).bind Binary.whole?

end HttpInterface.Decimal
