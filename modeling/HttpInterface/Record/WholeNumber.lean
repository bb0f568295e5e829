import HttpInterface.Text.Blank
import HttpInterface.Text.Split

/-!
# `HttpInterface.Record.WholeNumber`: whole numbers as texts

A whole number is read from a text in free spelling. Around it may stand blanks,
in front of it a `+` or needless zeros, behind it a point with zeros, and single
underscores may part its characters. Zeros may also stand behind a `-`. All this
is removed; what is left has to be a plain number: an optional `-`, and digits that
do not start with a needless zero.
-/

set_option autoImplicit false

namespace HttpInterface.Record

/-- Why a text is no whole number. -/
inductive NumberError where
  | malformed
  /-- The number has too many characters. -/
  | tooLong
  deriving DecidableEq, Repr

/-- How many digits a plain number may have. -/
def maxNumberLength : Nat := 4300

/-- The value of ASCII digits. -/
def digitsValue (digits : List Char) : Nat :=
  digits.foldl (fun n c => 10 * n + (c.toNat - '0'.toNat)) 0

/-- Reads a plain number. How many digits it has counts before what follows them. -/
def plainNumber (cs : List Char) : Except NumberError Int :=
  let negative := cs.head? == some '-'
  let body := if negative then cs.drop 1 else cs
  let digits := body.takeWhile Char.isDigit
  if digits.isEmpty then .error .malformed
  else if digits.head? == some '0' then
    if body == ['0'] then .ok 0 else .error .malformed
  else if maxNumberLength < digits.length then .error .tooLong
  else if body.length ≠ digits.length then .error .malformed
  else .ok (if negative then -(digitsValue digits : Int) else digitsValue digits)

/-- A text without a `+` in front. A second sign may not follow it. -/
def dropPlus? : List Char → Option (List Char)
  | '+' :: '-' :: _ => none
  | '+' :: rest => some rest
  | cs => some cs

/-- A digit or a minus: what a number may start with behind its zeros. -/
def startsNumber (c : Char) : Bool :=
  c.isDigit || c == '-'

/-- What follows needless zeros, of which `last` is the one read last. Underscores
may stand among them. The last zero stays where the text ends or a point
follows. -/
def afterZeros? (last : Char) : List Char → Option (List Char)
  | [] => some [last]
  | c :: rest =>
    if c = '0' ∨ c = '_' then afterZeros? c rest
    else if c = '.' then some (last :: c :: rest)
    else if startsNumber c then some (c :: rest)
    else none

/-- Digits without needless zeros in front. -/
def dropZeros? : List Char → Option (List Char)
  | '0' :: rest => afterZeros? '0' rest
  | c :: rest => if c.isDigit then some (c :: rest) else none
  | [] => none

/-- A text without needless zeros in front or behind a `-`. -/
def dropSignedZeros? : List Char → Option (List Char)
  | '-' :: rest => (dropZeros? rest).map ('-' :: ·)
  | cs => dropZeros? cs

/-- A text without a point and zeros at its end. -/
def dropFraction (cs : List Char) : List Char :=
  match Text.cut '.' cs with
  | (whole, some zeros) => if !zeros.isEmpty && zeros.all (· == '0') then whole else cs
  | _ => cs

/-- Two underscores stand side by side. -/
def hasDoubleUnderscore : List Char → Bool
  | '_' :: '_' :: _ => true
  | _ :: rest => hasDoubleUnderscore rest
  | [] => false

/-- A text without underscores, if each of them stands alone between other
characters. -/
def dropUnderscores (cs : List Char) : List Char :=
  if cs.head? == some '_' || cs.getLast? == some '_' || hasDoubleUnderscore cs then cs
  else cs.filter (· ≠ '_')

/-- A text in free spelling as a plain number. -/
def cleaned? (cs : List Char) : Option (List Char) :=
  ((dropPlus? (Text.trimSpaces cs)).bind dropSignedZeros?).map fun rest =>
    dropUnderscores (dropFraction rest)

/-- Reads a whole number in free spelling. Only of a number that is written plainly it is
said that it has too many characters. -/
def wholeNumber (s : String) : Except NumberError Int :=
  match plainNumber s.toList with
  | .error .malformed =>
    match (cleaned? s.toList).map plainNumber with
    | some (.ok i) => .ok i
    | _ => .error .malformed
  | read => read

end HttpInterface.Record
