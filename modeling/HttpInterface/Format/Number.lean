import HttpInterface.Decimal.Fixed
import HttpInterface.Format.Layout
import HttpInterface.Number

/-!
# `HttpInterface.Format.Number`: numbers laid out

A whole number is written in base ten, two, eight or sixteen, or as the character of its
code. A double is written with places, with an exponent, in the shorter of both ways, or
as a percentage. The digits in front of the point may be grouped, and zeros that fill a
width are grouped with them.
-/

set_option autoImplicit false

namespace HttpInterface.Format

/-! ### Digits -/

/-- Digits from the last one on in groups of a size, filled with zeros up to a width.
`fuel` bounds the groups. The result is the groups, last one first. -/
def groupsFrom (size : Nat) (fuel : Nat) (reversed : List Char) (width : Int) :
    List (List Char) :=
  match fuel with
  | 0 => [reversed.reverse]
  | fuel + 1 =>
    let length := min size (max (max reversed.length width.toNat) 1)
    let taken := reversed.take length
    let shown := List.replicate (length - taken.length) '0' ++ taken.reverse
    let rest := reversed.drop length
    let left := width - length
    if rest.isEmpty && left ≤ 0 then [shown]
    else shown :: groupsFrom size fuel rest (left - 1)

/-- Digits filled with zeros up to a width, and grouped. -/
def grouped (separator : Option Char) (size width : Nat) (digits : List Char) : List Char :=
  match separator with
  | none => Decimal.padZeros (max width 1) digits
  | some s =>
    let groups := (groupsFrom size (digits.length + width + 1) digits.reverse width).reverse
    match groups with
    | [] => []
    | first :: rest => first ++ rest.flatMap fun g => s :: g

/-- A number as it is put together. -/
structure Parts where
  negative : Bool
  /-- What stands between the sign and the digits. -/
  mark : List Char := []
  /-- The digits in front of the point. -/
  digits : List Char
  /-- What follows them. -/
  rest : List Char := []

/-- The sign that a layout shows. -/
def Layout.signText (l : Layout) (negative : Bool) : List Char :=
  if negative then ['-'] else (l.sign.filter (· != '-')).toList

/-- A number in its width. -/
def Layout.place (l : Layout) (groupSize : Nat) (p : Parts) : List Char :=
  let sign := l.signText p.negative
  let others := sign.length + p.mark.length + p.rest.length
  let width := l.width.getD 0
  let zeros := if l.filler == '0' && l.side = .split then width - others else 0
  let digits := if p.digits.isEmpty then [] else grouped l.separator groupSize zeros p.digits
  let body := p.mark ++ digits ++ p.rest
  if l.side = .split then
    sign ++ p.mark ++ List.replicate (width - others - digits.length) l.filler ++ digits ++ p.rest
  else l.fill (sign ++ body)

/-! ### Doubles -/

/-- The digits of a double in a form and with a precision, without its sign. `places`
says that a double without a letter has a place behind the point. -/
def magnitudeText (form : Option Char) (precision : Option Nat) (alternate places : Bool)
    (x : Float) : List Char :=
  match Decimal.Binary.ofFloat? x with
  | none => (if x.isNaN then "nan" else "inf").toList
  | some b =>
    let fraction := b.fraction
    let digits := precision.getD 6
    match form, precision with
    | some 'e', _ | some 'E', _ => Decimal.exponentialText digits alternate fraction
    | some 'f', _ | some 'F', _ | some '%', _ => Decimal.fixedText digits alternate fraction
    | some _, _ => Decimal.generalText digits alternate false fraction
    | none, some n => Decimal.generalText n alternate places fraction
    | none, none =>
      let shortest := (Decimal.floatText x.abs).toList
      let shortest :=
        if places then shortest else (Number.withoutZero (String.ofList shortest)).toList
      if alternate && !shortest.contains '.' then
        shortest.takeWhile (· != 'e') ++ '.' :: shortest.dropWhile (· != 'e')
      else shortest

/-- The parts of a double in a form. -/
def floatParts (l : Layout) (places : Bool) (x : Float) : Parts :=
  let isPercent := l.form = some '%'
  let scaled := if isPercent then x * 100.0 else x
  let text := magnitudeText l.form l.precision l.alternate places scaled
  let isZero := (text.takeWhile (· != 'e')).all fun c => c == '0' || c == '.'
  let text := if [some 'E', some 'F', some 'G'].contains l.form then text.map Char.toUpper else text
  let negative := Decimal.Binary.signBit scaled && !scaled.isNaN && !(l.unsignedZero && isZero)
  { negative
    digits := text.takeWhile Char.isDigit
    rest := text.dropWhile Char.isDigit ++ if isPercent then ['%'] else [] }

/-- The letters of the forms of doubles. -/
def floatForms : List Char := ['e', 'E', 'f', 'F', 'g', 'G', 'n', '%']

/-- How many digits a group has. -/
def groupSize (form : Option Char) : Nat :=
  if form.any bitForms.contains then 4 else 3

/-- A double as it is laid out. -/
def layFloat (kind text : String) (x : Float) : Except LayoutError String := do
  if text.isEmpty then return Decimal.floatText x
  let l ← Layout.read kind none true text
  if let some f := l.form then
    if !floatForms.contains f then throw (.unknownForm f kind)
  l.checkPrecision
  pure (String.ofList (l.place 3 (floatParts l true x)))

/-! ### Whole numbers -/

/-- The base of a form of whole numbers. -/
def baseOf (form : Char) : Nat :=
  match form with
  | 'b' => 2
  | 'o' => 8
  | 'x' | 'X' => 16
  | _ => 10

/-- The digits of a number in a base. -/
def digitsIn (base n : Nat) : List Char := Nat.toDigits base n

/-- A whole number as it is laid out. -/
def layInt (kind text : String) (i : Int) : Except LayoutError String := do
  let l ← Layout.read kind (some 'd') true text
  let form := l.form.getD 'd'
  let place := "in integer format specifier"
  if floatForms.contains form && form ≠ 'n' then
    let x := Number.floatOfInt i
    if x.isInf then throw .tooLargeForFloat
    l.checkPrecision
    return String.ofList (l.place 3 (floatParts l true x))
  if !(['b', 'c', 'd', 'o', 'x', 'X', 'n'].contains form) then throw (.unknownForm form kind)
  if l.precision.isSome then throw (.notAllowed "Precision" place)
  if l.unsignedZero then throw (.notAllowed "Negative zero coercion (z)" place)
  if form = 'c' then
    let place := "with integer format specifier 'c'"
    if l.sign.isSome then throw (.notAllowed "Sign" place)
    if l.alternate then throw (.notAllowed "Alternate form (#)" place)
    if 9223372036854775807 < i.natAbs then throw .tooLargeForCode
    if i < 0 || 0x110000 ≤ i then throw .noCharacter
    return String.ofList (l.place 3 ⟨false, [], [], [Char.ofNat i.toNat]⟩)
  let base := baseOf form
  if base = 10 && !Text.isTellable i then throw .untellable
  let digits := digitsIn base i.natAbs
  let digits := if form = 'X' then digits.map Char.toUpper else digits
  let mark := if l.alternate && base ≠ 10 then ['0', form] else []
  pure (String.ofList (l.place (groupSize l.form) ⟨i < 0, mark, digits, []⟩))

/-! ### Complex numbers -/

/-- A complex number as it is laid out. -/
def layComplex (text : String) (re im : Float) : Except LayoutError String := do
  if text.isEmpty then return Number.text (.complex re im)
  let l ← Layout.read "complex" none true text
  let place := "in complex format specifier"
  if let some f := l.form then
    if !floatForms.contains f || f = '%' then throw (.unknownForm f "complex")
  if l.filler == '0' then
    throw (.notAllowed "Zero padding is" place)
  if l.side = .split then throw (.notAllowed "'=' alignment flag is" place)
  l.checkPrecision
  let plain : Layout := { l with width := none, side := .left }
  let hidesReal := l.form.isNone && re == 0.0 && !Decimal.Binary.signBit re
  let imaginary : Layout := if hidesReal then plain else { plain with sign := some '+' }
  let front := if hidesReal then [] else plain.place 3 (floatParts l false re)
  let body := front ++ imaginary.place 3 (floatParts l false im) ++ ['j']
  let body := if l.form.isNone && !hidesReal then '(' :: body ++ [')'] else body
  pure (String.ofList (l.fill body))

/-- A number as it is laid out. -/
def layNumber (kind text : String) : Number → Except LayoutError String
  | .whole i => layInt kind text i
  | .real x => layFloat kind text x
  | .complex re im => layComplex text re im

end HttpInterface.Format
