import HttpInterface.Decimal.Shortest

/-!
# `HttpInterface.Decimal.Fixed`: a chosen number of digits

A double is a fraction `m · 2^q`, and so is every decimal. To write a double with so many
places, or with so many digits in all, the fraction is rounded in exact arithmetic, half
to the even neighbour.
-/

set_option autoImplicit false

namespace HttpInterface.Decimal

/-- A quotient of natural numbers rounded to the nearest one, half to the even one. -/
def roundDiv (n d : Nat) : Nat :=
  let quotient := n / d
  let rest := 2 * (n % d)
  if rest < d || (rest == d && quotient % 2 == 0) then quotient else quotient + 1

/-- The magnitude `m · 2^q` as a numerator and a denominator. -/
def Binary.fraction (b : Binary) : Nat × Nat :=
  (b.significand * twoPow b.exponent.toNat, twoPow (-b.exponent).toNat)

/-- A fraction times a power of ten, rounded. -/
def scaledRound (fraction : Nat × Nat) (power : Int) : Nat :=
  roundDiv (fraction.1 * tenPow power.toNat) (fraction.2 * tenPow (-power).toNat)

/-- The exponent of the first digit of a fraction that is not zero. -/
def leadingExponent (fraction : Nat × Nat) : Int :=
  let (n, d) := fraction
  if d ≤ n then ((Nat.toDigits 10 (n / d)).length : Int) - 1
  else
    let digits := (Nat.toDigits 10 (d / n)).length
    if d ≤ n * tenPow (digits - 1) then 1 - (digits : Int) else -(digits : Int)

/-- Digits, and the exponent of the first one. -/
structure Digits where
  digits : List Char
  exponent : Int
  deriving DecidableEq, Repr

/-- A fraction with so many digits, at least one. -/
def significant (count : Nat) (fraction : Nat × Nat) : Digits :=
  if fraction.1 = 0 then ⟨List.replicate count '0', 0⟩
  else
    let exponent := leadingExponent fraction
    let n := scaledRound fraction ((count : Int) - 1 - exponent)
    -- Rounding may give one digit more.
    if tenPow count ≤ n then ⟨Nat.toDigits 10 (n / 10), exponent + 1⟩
    else ⟨Nat.toDigits 10 n, exponent⟩

/-- Zeros in front of digits, up to a count. -/
def padZeros (count : Nat) (digits : List Char) : List Char :=
  List.replicate (count - digits.length) '0' ++ digits

/-- A fraction with so many places behind the point: the digits in front of the point and
those behind. -/
def fixedDigits (places : Nat) (fraction : Nat × Nat) : List Char × List Char :=
  let all := padZeros (places + 1) (Nat.toDigits 10 (scaledRound fraction places))
  (all.take (all.length - places), all.drop (all.length - places))

/-- A point and the digits behind it; the point goes with the last digit unless it is
kept. -/
def withPoint (keepsPoint : Bool) (digits : List Char) : List Char :=
  if digits.isEmpty && !keepsPoint then [] else '.' :: digits

/-- A fraction with so many places. -/
def fixedText (places : Nat) (keepsPoint : Bool) (fraction : Nat × Nat) : List Char :=
  let (front, back) := fixedDigits places fraction
  front ++ withPoint keepsPoint back

/-- An exponent with its sign and at least two digits. -/
def exponentText (exponent : Int) : List Char :=
  'e' :: (if exponent < 0 then '-' else '+') :: padZeros 2 (Nat.toDigits 10 exponent.natAbs)

/-- A fraction with one digit in front of the point, so many behind it, and an
exponent. -/
def exponentialText (places : Nat) (keepsPoint : Bool) (fraction : Nat × Nat) : List Char :=
  let d := significant (places + 1) fraction
  d.digits.take 1 ++ withPoint keepsPoint (d.digits.drop 1) ++ exponentText d.exponent

/-- Digits without the zeros at their end. -/
def dropZeros (digits : List Char) : List Char :=
  (digits.reverse.dropWhile (· == '0')).reverse

/-- A fraction with so many digits, and an exponent if it is too small or has more digits
in front of the point. Zeros at the end are left out unless they are kept; `wantsPlace`
asks for at least one digit behind the point. -/
def generalText (count : Nat) (keepsZeros wantsPlace : Bool) (fraction : Nat × Nat) : List Char :=
  let count := max count 1
  let d := significant count fraction
  let limit : Int := if wantsPlace then (count : Int) - 1 else count
  let behind (digits : List Char) : List Char :=
    if keepsZeros then withPoint true digits else withPoint false (dropZeros digits)
  if d.exponent < -4 || limit ≤ d.exponent then
    d.digits.take 1 ++ behind (d.digits.drop 1) ++ exponentText d.exponent
  else
    let whole := (d.exponent + 1).toNat
    let front := if whole = 0 then ['0'] else d.digits.take whole
    let back := List.replicate (-d.exponent - 1).toNat '0' ++ d.digits.drop whole
    let back := behind back
    front ++ (if wantsPlace && back.isEmpty then ['.', '0'] else back)

end HttpInterface.Decimal
