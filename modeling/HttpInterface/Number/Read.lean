import HttpInterface.Decimal.Read
import HttpInterface.Number.Arithmetic
import HttpInterface.Text.Blank
import HttpInterface.Text.Digit

/-!
# `HttpInterface.Number.Read`: numbers in texts

A text that is to be a number may have blanks around it. A whole number is written in a
base between two and thirty-six, with a mark for the base in front where there is one,
and single underscores may stand between its digits. A complex number is two doubles, the
second one with a `j`. A double may be written in hexadecimal digits.
-/

set_option autoImplicit false

namespace HttpInterface.Number

/-- The value of a digit in a base beyond ten. -/
def digitValue? (c : Char) : Option Nat :=
  match Text.decimalDigit? c with
  | some d => some d
  | none =>
    if 'a' ≤ c ∧ c ≤ 'z' then some (c.toNat - 'a'.toNat + 10)
    else if 'A' ≤ c ∧ c ≤ 'Z' then some (c.toNat - 'A'.toNat + 10)
    else none

/-- The value of a digit of a base. -/
def digitIn? (base : Nat) (c : Char) : Option Nat :=
  (digitValue? c).filter (· < base)

/-- Digits, with single underscores between them, behind a number already read. -/
def readDigits? (base : Nat) : Nat → List Char → Option Nat
  | n, [] => some n
  | n, '_' :: c :: rest => do readDigits? base (base * n + (← digitIn? base c)) rest
  | n, c :: rest => do readDigits? base (base * n + (← digitIn? base c)) rest

/-- The bases that have a mark. -/
def markedBases : List (Char × Nat) :=
  [('x', 16), ('X', 16), ('o', 8), ('O', 8), ('b', 2), ('B', 2)]

/-- The digits of a number behind the mark of its base, and the base. An underscore may
stand behind a mark. The base zero stands for the one that is marked. -/
def splitBase? (base : Nat) (cs : List Char) : Option (Nat × List Char) :=
  let plain : Option (Nat × List Char) :=
    if base ≠ 0 then some (base, cs)
    else if cs.head? = some '0' && cs.any fun c => c != '0' && c != '_' then none
    else some (10, cs)
  match cs with
  | '0' :: mark :: rest =>
    match markedBases.lookup mark with
    | some marked =>
      if base = 0 || base = marked then
        some (marked, if rest.head? = some '_' then rest.drop 1 else rest)
      else plain
    | none => plain
  | _ => plain

/-- A whole number in a base. -/
def readWhole? (base : Nat) (cs : List Char) : Option Int := do
  let (negative, cs) := Text.splitSign (Text.trim cs)
  let (base, digits) ← splitBase? base cs
  let n ← match digits with
    | [] => none
    | c :: rest => do readDigits? base (← digitIn? base c) rest
  pure (if negative then -(n : Int) else n)

/-- A number with a sign between its parts: the place of the sign. -/
def partsAt? (cs : List Char) : Option Nat :=
  let signs := (cs.zipIdx.drop 1).filter fun e =>
    (e.1 == '+' || e.1 == '-') && !(cs[e.2 - 1]?).any fun c => c == 'e' || c == 'E'
  signs.getLast?.map Prod.snd

/-- The double in front of a `j`; a sign alone stands for one. -/
def imaginary? (cs : List Char) : Option Float :=
  match cs with
  | [] | ['+'] => some 1.0
  | ['-'] => some (-1.0)
  | cs => if hasBlank cs then none else Decimal.readFloat? (String.ofList cs)
where
  /-- A blank stands among the characters. -/
  hasBlank (cs : List Char) : Bool := cs.any Text.isBlank

/-- A complex number; parentheses may stand around it. -/
def readComplex? (cs : List Char) : Option (Float × Float) := do
  let cs := Text.trim cs
  let cs ← match cs with
    | '(' :: rest =>
      match rest.reverse with
      | ')' :: inner => some (Text.trim inner.reverse)
      | _ => none
    | cs => some cs
  if cs.any Text.isBlank then none
  else
    match cs.reverse with
    | j :: front =>
      if j = 'j' || j = 'J' then
        let cs := front.reverse
        match partsAt? cs with
        | some i => do
          let re ← Decimal.readFloat? (String.ofList (cs.take i))
          pure (re, ← imaginary? (cs.drop i))
        | none => (imaginary? cs).map fun im => (0.0, im)
      else (Decimal.readFloat? (String.ofList cs)).map fun re => (re, 0.0)
    | [] => none

/-! ### Hexadecimal digits -/

/-- The digits at the front of a text, and what is behind them. -/
def hexDigits (cs : List Char) : List Char × List Char :=
  cs.span fun c => (Text.hexDigit? c).isSome

/-- The power of two behind hexadecimal digits: zero if there is none. -/
def readBinaryPower? : List Char → Option Int
  | [] => some 0
  | c :: rest =>
    if c = 'p' || c = 'P' then
      let (negative, digits) := Text.splitSign rest
      if digits.isEmpty || !digits.all Char.isDigit then none
      else
        let n := digits.foldl (fun n d => 10 * n + (d.toNat - '0'.toNat)) 0
        some (if negative then -(n : Int) else n)
    else none

/-- The double nearest to a natural number times a power of two. -/
def nearestScaled (n : Nat) (power : Int) : Float :=
  if n = 0 then 0.0
  else
    let size := power + Nat.log2 n
    if 1024 < size then 1.0 / 0.0
    else if size < -1100 then 0.0
    else if 0 ≤ power then nearestFraction (n * Decimal.twoPow power.toNat) 1
    else nearestFraction n (Decimal.twoPow (-power).toNat)

/-- A double in hexadecimal digits with a power of two, or one of the words for those that
have no digits. -/
def readHexFloat? (cs : List Char) : Option Float := do
  let (negative, cs) := Text.splitSign (Text.trim cs)
  let sign (x : Float) : Float := if negative then -x else x
  let word := String.ofList (cs.map Char.toLower)
  if word = "inf" || word = "infinity" then return sign (1.0 / 0.0)
  if word = "nan" then return sign (0.0 / 0.0)
  let cs := match cs with
    | '0' :: x :: rest => if x = 'x' || x = 'X' then rest else cs
    | cs => cs
  let (front, rest) := hexDigits cs
  let (fraction, rest) := match rest with
    | '.' :: rest => hexDigits rest
    | rest => ([], rest)
  if front.isEmpty && fraction.isEmpty then none
  else
    let n := (front ++ fraction).foldl (fun n c => 16 * n + (Text.hexDigit? c).getD 0) 0
    let power ← readBinaryPower? rest
    pure (sign (nearestScaled n (power - 4 * fraction.length)))

end HttpInterface.Number
