import HttpInterface.Decimal.Binary
import HttpInterface.Decimal.Shortest

/-!
# `HttpInterface.Number`: numbers of three kinds

A number is whole, a double, or a complex number of two doubles. Numbers of different
kinds are compared exactly, by what they stand for: a whole number is equal to a double
only if the double is that number. The hash of a number is its remainder modulo a prime, so
that equal numbers of all kinds have one hash.
-/

set_option autoImplicit false

namespace HttpInterface

/-- A number. -/
inductive Number where
  | whole (i : Int)
  | real (x : Float)
  | complex (re im : Float)

namespace Number

/-! ### Kinds -/

/-- The double nearest to a whole number; infinite if it is too large. -/
def floatOfInt (i : Int) : Float :=
  let magnitude := Float.ofNat i.natAbs
  if i < 0 then -magnitude else magnitude

/-- The double that stands for a number that is not complex. -/
def toFloat? : Number → Option Float
  | whole i => some (floatOfInt i)
  | real x => some x
  | complex _ _ => none

/-- The two parts of a number as a complex one. -/
def parts : Number → Float × Float
  | whole i => (floatOfInt i, 0.0)
  | real x => (x, 0.0)
  | complex re im => (re, im)

/-- The number is whole, and too large for a double. -/
def exceedsFloat : Number → Bool
  | whole i => (floatOfInt i).isInf
  | _ => false

/-- The number counts as true in a condition. -/
def isTrue : Number → Bool
  | whole i => i != 0
  | real x => !(x == 0.0)
  | complex re im => !(re == 0.0 && im == 0.0)

/-! ### Comparison -/

/-- A whole number comes before, with or behind a double that is a number. -/
def compareToFloat (i : Int) (x : Float) : Ordering :=
  match Decimal.Binary.ofFloat? x with
  | none => if x > 0.0 then .lt else .gt
  | some b =>
    let signed : Int := if b.negative then -(b.significand : Int) else b.significand
    if 0 ≤ b.exponent then compare i (signed * Decimal.twoPow b.exponent.toNat)
    else compare (i * Decimal.twoPow (-b.exponent).toNat) signed

/-- Both numbers are equal. -/
def equal : Number → Number → Bool
  | whole i, whole j => i == j
  | whole i, real x => !x.isNaN && compareToFloat i x == .eq
  | real x, whole i => !x.isNaN && compareToFloat i x == .eq
  | real x, real y => x == y
  | complex re im, complex re' im' => re == re' && im == im'
  | complex re im, whole i => im == 0.0 && !re.isNaN && compareToFloat i re == .eq
  | whole i, complex re im => im == 0.0 && !re.isNaN && compareToFloat i re == .eq
  | complex re im, real x => im == 0.0 && re == x
  | real x, complex re im => im == 0.0 && re == x

/-- The first number is less than the second; complex numbers are in no order. -/
def less? : Number → Number → Option Bool
  | whole i, whole j => some (i < j)
  | whole i, real x => some (!x.isNaN && compareToFloat i x == .lt)
  | real x, whole i => some (!x.isNaN && compareToFloat i x == .gt)
  | real x, real y => some (x < y)
  | _, _ => none

/-- The first number is at most the second; complex numbers are in no order. -/
def atMost? : Number → Number → Option Bool
  | whole i, whole j => some (i ≤ j)
  | whole i, real x => some (!x.isNaN && compareToFloat i x != .gt)
  | real x, whole i => some (!x.isNaN && compareToFloat i x != .lt)
  | real x, real y => some (x ≤ y)
  | _, _ => none

/-! ### Texts -/

/-- A text of a double without a point and zero at its end. -/
def withoutZero (text : String) : String :=
  match text.toList.reverse with
  | '0' :: '.' :: rest => String.ofList rest.reverse
  | _ => text

/-- A complex number as text, from the texts of its parts: between parentheses, unless
there is nothing but the imaginary part. -/
def complexText (re im : String) : String :=
  let im := withoutZero im
  if re = "0.0" then im ++ "j"
  else
    let sign := if im.startsWith "-" then "" else "+"
    "(" ++ withoutZero re ++ sign ++ im ++ "j)"

/-- The text of a number. -/
def text : Number → String
  | whole i => toString i
  | real x => Decimal.floatText x
  | complex re im => complexText (Decimal.floatText re) (Decimal.floatText im)

/-- The name of the kind of a number. -/
def kindName : Number → String
  | whole _ => "int"
  | real _ => "float"
  | complex _ _ => "complex"

/-! ### Hashes -/

/-- The prime modulo which numbers are taken. -/
def hashPrime : Nat := Nat.pow 2 61 - 1

/-- A remainder with the sign of the number. No hash is minus one. -/
def signedHash (negative : Bool) (rest : Nat) : Int :=
  let h : Int := if negative then -(rest : Int) else rest
  if h = -1 then -2 else h

/-- The hash of a whole number. -/
def hashWhole (i : Int) : Int :=
  signedHash (i < 0) (i.natAbs % hashPrime)

/-- The hash of a double, unless it is no number. -/
def hashFloat? (x : Float) : Option Int :=
  match Decimal.Binary.ofFloat? x with
  | some b =>
    -- Two to the power of 61 is one modulo the prime.
    let power := (Int.emod b.exponent 61).toNat
    some (signedHash b.negative (b.significand * Nat.pow 2 power % hashPrime))
  | none => if x.isNaN then none else some (if x > 0.0 then 314159 else -314159)

/-- The hash of a number. -/
def hash? : Number → Option Int
  | whole i => some (hashWhole i)
  | real x => hashFloat? x
  | complex re im => do
    let h := (← hashFloat? re) + 1000003 * (← hashFloat? im)
    let wrapped := Int.bmod h (Nat.pow 2 64)
    pure (if wrapped = -1 then -2 else wrapped)

end Number

end HttpInterface
