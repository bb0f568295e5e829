import HttpInterface.Decimal.Binary

/-!
# `HttpInterface.Decimal.Shortest`: the fewest digits that read back

A binary number `m · 2^q` is the nearest one to a whole interval of reals. Among
the decimals in that interval those with the fewest digits are wanted, and of
these the one nearest to the number. For one digit, two digits and so on, the
two neighbours of the number on that decimal grid are tried: the first grid with
a neighbour inside the interval wins.

All values are kept as fractions with one common denominator, so every
comparison is one of natural numbers.
-/

set_option autoImplicit false

namespace HttpInterface.Decimal

/-- The power `10^n`. -/
def tenPow (n : Nat) : Nat := Nat.pow 10 n

/-- A positive binary number and the reals that round to it, over one common
denominator. -/
structure Interval where
  /-- The numerator of the number. -/
  value : Nat
  /-- The numerator of the lower end. -/
  low : Nat
  /-- The numerator of the upper end. -/
  high : Nat
  denominator : Nat
  /-- The ends belong to the interval. -/
  closed : Bool

/-- The interval of `m · 2^q`. The gap below a power of two is half as wide as
the gap above it, unless the number below has the same exponent. -/
def Interval.ofBinary (m : Nat) (q : Int) (narrowBelow : Bool) : Interval :=
  let scale := twoPow (q - 2).toNat
  { value := 4 * m * scale
    low := (4 * m - if narrowBelow then 1 else 2) * scale
    high := (4 * m + 2) * scale
    denominator := twoPow (2 - q).toNat
    closed := m % 2 == 0 }

/-- A numeral in base ten: the number `coefficient · 10^exponent`. -/
structure Numeral where
  coefficient : Nat
  exponent : Int
  deriving DecidableEq, Repr

namespace Interval

/-- The decimal exponent of the first digit. -/
def leadingExponent (i : Interval) : Int :=
  if i.denominator ≤ i.value then
    ((Nat.toDigits 10 (i.value / i.denominator)).length : Int) - 1
  else
    let digits := (Nat.toDigits 10 (i.denominator / i.value)).length
    if i.denominator ≤ i.value * tenPow (digits - 1) then 1 - (digits : Int)
    else -(digits : Int)

/-- A decimal lies in the interval. -/
def holds (i : Interval) (d : Numeral) : Bool :=
  let up := d.coefficient * tenPow d.exponent.toNat * i.denominator
  let down := tenPow (-d.exponent).toNat
  if i.closed then i.low * down ≤ up && up ≤ i.high * down
  else i.low * down < up && up < i.high * down

/-- The decimal on a grid that is nearest to the number, of those in the
interval. -/
def nearest? (i : Interval) (exponent : Int) : Option Numeral :=
  let numerator := i.value * tenPow (-exponent).toNat
  let unit := i.denominator * tenPow exponent.toNat
  let below : Numeral := ⟨numerator / unit, exponent⟩
  let above : Numeral := ⟨numerator / unit + 1, exponent⟩
  let rest := 2 * (numerator % unit)
  let belowFirst := rest < unit || (rest == unit && below.coefficient % 2 == 0)
  match i.holds below, i.holds above with
  | true, true => some (if belowFirst then below else above)
  | true, false => some below
  | false, true => some above
  | false, false => none

/-- The decimal with the fewest digits in the interval, the nearest of those.
Seventeen digits always suffice. -/
def shortest (i : Interval) : Numeral :=
  let leading := i.leadingExponent
  let found := (List.range 17).findSome? fun (n : Nat) => i.nearest? (leading - (n : Int))
  found.getD ⟨i.value / i.denominator, 0⟩

end Interval

/-- How a decimal is written. -/
structure Layout where
  /-- The least exponent of the first digit that is written with a point. -/
  minPositional : Int
  /-- The greatest exponent of the first digit that is written with a point. -/
  maxPositional : Int
  /-- How many digits an exponent has at least. -/
  exponentDigits : Nat

/-- The digits of a coefficient without the zeros at its end, and the exponent
of the first digit. -/
def Numeral.digits (d : Numeral) : List Char × Int :=
  let all := Nat.toDigits 10 d.coefficient
  let kept := (all.reverse.dropWhile (· == '0')).reverse
  (if kept.isEmpty then ['0'] else kept, d.exponent + all.length - 1)

/-- Digits with a point in the place that the exponent of the first one
states. -/
def positional (digits : List Char) (exponent : Int) : List Char :=
  if exponent < 0 then
    '0' :: '.' :: List.replicate (-exponent - 1).toNat '0' ++ digits
  else
    let whole := exponent.toNat + 1
    let front := digits.take whole
    let back := digits.drop whole
    front ++ List.replicate (whole - front.length) '0' ++
      '.' :: (if back.isEmpty then ['0'] else back)

/-- Digits with a point after the first one, and an exponent with its sign. -/
def scientific (exponentDigits : Nat) (digits : List Char) (exponent : Int) :
    List Char :=
  let mantissa := match digits with
    | [] => []
    | [d] => [d]
    | d :: rest => d :: '.' :: rest
  let power := Nat.toDigits 10 exponent.natAbs
  mantissa ++ 'e' :: (if exponent < 0 then '-' else '+') ::
    List.replicate (exponentDigits - power.length) '0' ++ power

/-- Writes a decimal. -/
def Numeral.write (layout : Layout) (d : Numeral) : List Char :=
  let (digits, exponent) := d.digits
  if layout.minPositional ≤ exponent ∧ exponent ≤ layout.maxPositional then
    positional digits exponent
  else scientific layout.exponentDigits digits exponent

/-- Numbers are written with a point from `0.0001` to below `10^16`, and with an
exponent of at least two digits elsewhere. -/
def numberLayout : Layout := ⟨-4, 15, 2⟩

/-- The text of a double: the fewest digits that read back. -/
def floatText (x : Float) : String :=
  let sign (negative : Bool) : List Char := if negative then ['-'] else []
  match Binary.ofFloat? x with
  | some b =>
    let digits :=
      if b.significand = 0 then ['0', '.', '0']
      else
        (Interval.ofBinary b.significand b.exponent b.narrowBelow).shortest.write numberLayout
    String.ofList (sign b.negative ++ digits)
  | none =>
    if x.isNaN then "nan" else String.ofList (sign (Binary.signBit x) ++ ['i', 'n', 'f'])

end HttpInterface.Decimal
