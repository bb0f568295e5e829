/-!
# `HttpInterface.Text.Digit`: digits

A decimal digit is a character of the general category `Nd`. The digits of a
script stand in a block of ten, zero first, so the table holds the zeros only.
Hexadecimal digits are ASCII characters in either letter case.
-/

set_option autoImplicit false

namespace HttpInterface.Text

/-- The code points of the digit zero, script by script. -/
def decimalZeros : List Nat :=
  [0x30, 0x660, 0x6F0, 0x7C0, 0x966, 0x9E6, 0xA66, 0xAE6, 0xB66, 0xBE6, 0xC66,
   0xCE6, 0xD66, 0xDE6, 0xE50, 0xED0, 0xF20, 0x1040, 0x1090, 0x17E0, 0x1810,
   0x1946, 0x19D0, 0x1A80, 0x1A90, 0x1B50, 0x1BB0, 0x1C40, 0x1C50, 0xA620,
   0xA8D0, 0xA900, 0xA9D0, 0xA9F0, 0xAA50, 0xABF0, 0xFF10, 0x104A0, 0x10D30,
   0x11066, 0x110F0, 0x11136, 0x111D0, 0x112F0, 0x11450, 0x114D0, 0x11650,
   0x116C0, 0x11730, 0x118E0, 0x11950, 0x11C50, 0x11D50, 0x11DA0, 0x16A60,
   0x16AC0, 0x16B50, 0x1D7CE, 0x1D7D8, 0x1D7E2, 0x1D7EC, 0x1D7F6, 0x1E140,
   0x1E2F0, 0x1E950, 0x1FBF0]

/-- The value of a decimal digit of any script. -/
def decimalDigit? (c : Char) : Option Nat :=
  (decimalZeros.find? fun z => z ≤ c.toNat && c.toNat < z + 10).map (c.toNat - ·)

/-- A decimal digit of any script. -/
def isDecimalDigit (c : Char) : Bool :=
  (decimalDigit? c).isSome

/-- Reads digits that may be grouped by single underscores: each underscore
stands between two digits. -/
def digitsValue? : Nat → List Char → Option Nat
  | n, [] => some n
  | n, '_' :: c :: r => do digitsValue? (10 * n + (← decimalDigit? c)) r
  | n, c :: r => do digitsValue? (10 * n + (← decimalDigit? c)) r

/-- Reads a natural number: at least one digit. -/
def naturalValue? : List Char → Option Nat
  | [] => none
  | c :: r => do digitsValue? (← decimalDigit? c) r

/-- How many digits the text of an integer may have. -/
def maxDigits : Nat := 4300

/-- The text of an integer has no more digits than it may have. -/
def isTellable (i : Int) : Bool :=
  i.natAbs < 10 || i.natAbs < Nat.pow 10 maxDigits

/-- What is said of an integer whose text would have too many digits. -/
def tooManyDigitsMessage : String :=
  s!"Exceeds the limit ({maxDigits} digits) for integer string conversion; " ++
    "use sys.set_int_max_str_digits() to increase the limit"

/-- Splits off a sign; it says whether the number is negative. -/
def splitSign : List Char → Bool × List Char
  | '-' :: r => (true, r)
  | '+' :: r => (false, r)
  | cs => (false, cs)

/-- Reads an integer that may have a sign in front. -/
def integerValue? (cs : List Char) : Option Int :=
  let (negative, digits) := splitSign cs
  if maxDigits < digits.countP isDecimalDigit then none
  else (naturalValue? digits).map fun n => if negative then -(n : Int) else n

/-! ### Hexadecimal digits -/

/-- The value of a hexadecimal digit in either letter case. -/
def hexDigit? (c : Char) : Option Nat :=
  if '0' ≤ c ∧ c ≤ '9' then some (c.toNat - '0'.toNat)
  else if 'a' ≤ c ∧ c ≤ 'f' then some (c.toNat - 'a'.toNat + 10)
  else if 'A' ≤ c ∧ c ≤ 'F' then some (c.toNat - 'A'.toNat + 10)
  else none

/-- The lower-case digit of a value below sixteen. -/
def lowerHexDigit (n : Nat) : Char :=
  Char.ofNat (if n < 10 then '0'.toNat + n else 'a'.toNat + (n - 10))

/-- The upper-case digit of a value below sixteen. -/
def upperHexDigit (n : Nat) : Char :=
  Char.ofNat (if n < 10 then '0'.toNat + n else 'A'.toNat + (n - 10))

/-- The last `width` digits of `n`, in lower case. -/
def lowerHex : (width : Nat) → (n : Nat) → List Char
  | 0, _ => []
  | width + 1, n => lowerHex width (n / 16) ++ [lowerHexDigit (n % 16)]

end HttpInterface.Text
