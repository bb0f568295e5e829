import HttpInterface.Decimal.Fixed
import HttpInterface.Number.Arithmetic

/-!
# `HttpInterface.Number.Rounding`: numbers with fewer digits, and as fractions

A number is rounded to a place in front of its point or behind it, half to the even
neighbour. Every finite double is a fraction of whole numbers, and it can be written
exactly in hexadecimal digits with a power of two.
-/

set_option autoImplicit false

namespace HttpInterface.Number

/-- A sign put in front of a natural number. -/
def signed (negative : Bool) (n : Nat) : Int := if negative then -(n : Int) else n

/-- What is said of a double that is no whole number. -/
def refuseWhole (x : Float) (target : String) : NumberError :=
  let isWhole := target = "integer"
  if x.isNaN then
    let what := if isWhole then "float NaN" else "NaN"
    .badOperand s!"cannot convert {what} to {target}"
  else
    let what := if isWhole then "float infinity" else "Infinity"
    .tooLarge s!"cannot convert {what} to {target}"

/-- A double in front of its point. -/
def wholePart (x : Float) : Except NumberError Int :=
  match Decimal.Binary.ofFloat? x with
  | none => .error (refuseWhole x "integer")
  | some _ => .ok (truncated x)

/-- The greatest whole number that a double is not below. -/
def floorOf (x : Float) : Except NumberError Int :=
  (wholePart x).map fun i => if x < floatOfInt i then i - 1 else i

/-- The least whole number that a double is not above. -/
def ceilingOf (x : Float) : Except NumberError Int :=
  (wholePart x).map fun i => if floatOfInt i < x then i + 1 else i

/-- A double rounded to a whole number. -/
def nearestWhole (x : Float) : Except NumberError Int :=
  match Decimal.Binary.ofFloat? x with
  | none => .error (refuseWhole x "integer")
  | some b =>
    let (n, d) := b.fraction
    .ok (signed b.negative (Decimal.roundDiv n d))

/-- The most places, before the point or behind it, that rounding looks at. -/
def maxPlaces : Nat := 400

/-- A double rounded to so many places behind its point. -/
def roundedTo (places : Int) (x : Float) : Except NumberError Float :=
  match Decimal.Binary.ofFloat? x with
  | none => .ok x
  | some b =>
    if (maxPlaces : Int) < places then .ok x
    else if places < -(maxPlaces : Int) then .ok (withSign 0.0 x)
    else
      let n := Decimal.scaledRound b.fraction places
      let size :=
        if 0 ≤ places then nearestFraction n (Decimal.tenPow places.toNat)
        else nearestFraction (n * Decimal.tenPow (-places).toNat) 1
      if size.isInf then .error (.tooLarge "rounded value too large to represent")
      else .ok (withSign size x)

/-- A whole number rounded to so many places; those behind its point change nothing. -/
def roundedWhole (places : Int) (i : Int) : Int :=
  if 0 ≤ places then i
  else if (Nat.log2 i.natAbs : Int) < -places * 3 - 3 then 0
  else
    let unit := Decimal.tenPow (-places).toNat
    signed (i < 0) (Decimal.roundDiv i.natAbs unit * unit)

/-- A double as a fraction in lowest terms. -/
def ratioOf (x : Float) : Except NumberError (Int × Nat) :=
  match Decimal.Binary.ofFloat? x with
  | none => .error (refuseWhole x "integer ratio")
  | some b =>
    let (n, d) := b.fraction
    let divisor := max 1 (Nat.gcd n d)
    .ok (signed b.negative (n / divisor), d / divisor)

/-- A double in hexadecimal digits. -/
def hexFloat (x : Float) : String :=
  match Decimal.Binary.ofFloat? x with
  | none => if x.isNaN then "nan" else if x < 0.0 then "-inf" else "inf"
  | some b =>
    let sign := if b.negative then "-" else ""
    if b.significand = 0 then sign ++ "0x0.0p+0"
    else
      let unit := Decimal.twoPow 52
      let digits := Nat.toDigits 16 (b.significand % unit)
      let shown := String.ofList (Decimal.padZeros 13 digits)
      let exponent := b.exponent + 52
      let exponentSign := if exponent < 0 then "-" else "+"
      s!"{sign}0x{b.significand / unit}.{shown}p{exponentSign}{exponent.natAbs}"

end HttpInterface.Number
