import HttpInterface.Text.Blank
import HttpInterface.Text.Case
import HttpInterface.Text.Digit
import HttpInterface.Text.Split

/-!
# `HttpInterface.Decimal.Read`: reading decimal numbers

A decimal number has a sign, digits with a point among them, and a power of ten.
Digits of every script count, and a single underscore may stand between two of
them. The nearest double is its value. `inf`, `infinity` and `nan` stand for the
doubles that are no numbers; letter case does not count.
-/

set_option autoImplicit false

namespace HttpInterface.Decimal

/-- The ASCII digit of the same value; any other character as it is. -/
def asciiDigit (c : Char) : Char :=
  match Text.decimalDigit? c with
  | some n => Char.ofNat ('0'.toNat + n)
  | none => c

/-- Drops the underscores, if each of them stands between two ASCII digits;
`afterDigit` says whether a digit stands in front of the text. -/
def dropUnderscores? (afterDigit : Bool) : List Char → Option (List Char)
  | [] => some []
  | '_' :: c :: rest =>
    if afterDigit && c.isDigit then (dropUnderscores? true rest).map (c :: ·) else none
  | ['_'] => none
  | c :: rest => (dropUnderscores? c.isDigit rest).map (c :: ·)

/-- The value of ASCII digits; no digits are worth zero. -/
def digitsNat? (cs : List Char) : Option Nat :=
  if cs.all Char.isDigit then
    some (cs.foldl (fun n c => 10 * n + (c.toNat - '0'.toNat)) 0)
  else none

/-- The power of ten behind an `e`; nothing stands for zero. -/
def readPower? : Option (List Char) → Option Int
  | none => some 0
  | some cs => do
    let (negative, digits) := Text.splitSign cs
    if digits.isEmpty then none
    else
      let n ← digitsNat? digits
      pure (if negative then -(n : Int) else n)

/-- The double nearest to `coefficient · 10^power`, where the coefficient has
`digitCount` digits. Beyond the power of 400 in either direction, whatever the
digits, nothing but infinity and zero is reached. -/
def nearestDouble (digitCount coefficient : Nat) (power : Int) : Float :=
  if power + digitCount > 400 then
    if coefficient = 0 then 0.0 else 1.0 / 0.0
  else if power + digitCount < -400 then 0.0
  else if 0 ≤ power then Float.ofScientific coefficient false power.toNat
  else Float.ofScientific coefficient true (-power).toNat

/-- Reads a number without a sign; letters are in lower case. -/
def readUnsigned? (cs : List Char) : Option Float :=
  let word := String.ofList cs
  if word = "inf" ∨ word = "infinity" then some (1.0 / 0.0)
  else if word = "nan" then some (0.0 / 0.0)
  else do
    let (number, power) := Text.cut 'e' cs
    let (whole, fraction) := Text.cut '.' number
    let digits := whole ++ fraction.getD []
    if digits.isEmpty then none
    else
      let coefficient ← digitsNat? digits
      let power ← readPower? power
      let digitCount := (digits.dropWhile (· == '0')).length
      pure (nearestDouble digitCount coefficient (power - (fraction.getD []).length))

/-- Reads a number. -/
def readFloat? (s : String) : Option Float := do
  let plain := (Text.trimSpaces (Text.lowerAscii s).toList).map asciiDigit
  let (negative, cs) := Text.splitSign (← dropUnderscores? false plain)
  let x ← readUnsigned? cs
  pure (if negative then -x else x)

end HttpInterface.Decimal
