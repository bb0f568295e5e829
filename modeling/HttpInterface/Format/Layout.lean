import HttpInterface.Text.Digit
import HttpInterface.Text.Quoted

/-!
# `HttpInterface.Format.Layout`: how a value is laid out

A layout says how wide a value is at least and where it stands in that width, which sign
it has, how its digits are grouped, how many digits it has, and in which form it is
written. The text of a layout gives these in a fixed order, each of them may be missing.
-/

set_option autoImplicit false

namespace HttpInterface.Format

/-- Where a value stands in its width. -/
inductive Side where
  | left
  | right
  | center
  /-- At the right, with its sign at the left. -/
  | split
  deriving DecidableEq, Repr

/-- How a value is laid out. -/
structure Layout where
  filler : Char := ' '
  side : Side := .left
  /-- `+`, `-` or a blank, if the sign is asked for. -/
  sign : Option Char := none
  /-- Zero has no sign. -/
  unsignedZero : Bool := false
  alternate : Bool := false
  width : Option Nat := none
  /-- What stands between groups of digits. -/
  separator : Option Char := none
  precision : Option Nat := none
  /-- The letter of the form. -/
  form : Option Char := none
  deriving DecidableEq, Repr

/-- Why a value cannot be laid out. -/
inductive LayoutError where
  | tooManyDigits
  | bothSeparators
  | noPrecision
  /-- The text is no layout. -/
  | invalid (text kind : String)
  /-- A form does not go with groups of digits. -/
  | separatorWithForm (separator form : Char)
  | unknownForm (form : Char) (kind : String)
  /-- A text or a number of some kind has no such property. -/
  | notAllowed (what place : String)
  /-- A number is no code of a character. -/
  | noCharacter
  | tooLargeForCode
  | tooLargeForFloat
  /-- The value has no layout at all. -/
  | unsupported (kind : String)
  /-- A number has too many digits to be told. -/
  | untellable
  /-- More characters are asked for than there is room for. -/
  | tooWide
  | tooPrecise
  deriving DecidableEq, Repr

/-- The letter of a form as messages show it. -/
def shownForm (form : Char) : String :=
  if 32 < form.toNat && form.toNat < 128 then String.singleton form
  else "\\x" ++ String.ofList (Nat.toDigits 16 form.toNat)

/-- The message of a layout error. -/
def LayoutError.message : LayoutError → String
  | tooManyDigits => "Too many decimal digits in format string"
  | bothSeparators => "Cannot specify both ',' and '_'."
  | noPrecision => "Format specifier missing precision"
  | invalid text kind => s!"Invalid format specifier '{text}' for object of type '{kind}'"
  | separatorWithForm separator form =>
    s!"Cannot specify '{separator}' with '{shownForm form}'."
  | unknownForm form kind =>
    s!"Unknown format code '{shownForm form}' for object of type '{kind}'"
  | notAllowed what place => s!"{what} not allowed {place}"
  | noCharacter => "%c arg not in range(0x110000)"
  | tooLargeForCode => "Python int too large to convert to C long"
  | tooLargeForFloat => "int too large to convert to float"
  | unsupported kind => s!"unsupported format string passed to {kind}.__format__"
  | untellable => Text.tooManyDigitsMessage
  | tooWide => ""
  | tooPrecise => "precision too big"

/-- The class of a layout error. -/
def LayoutError.className : LayoutError → String
  | noCharacter | tooLargeForCode | tooLargeForFloat => "OverflowError"
  | unsupported _ => "TypeError"
  | tooWide => "MemoryError"
  | _ => "ValueError"

/-- The most characters that a value may fill. -/
def maxWidth : Nat := 2000000

/-- The greatest precision. -/
def maxPrecision : Nat := 2147483647

/-- The signs for the sides. -/
def sides : List (Char × Side) :=
  [('<', .left), ('>', .right), ('^', .center), ('=', .split)]

/-- The greatest number that a layout may hold. -/
def maxNumber : Nat := 9223372036854775807

/-- Takes the digits of a number from the front. -/
def takeNumber? (cs : List Char) : Except LayoutError (Option Nat × List Char) :=
  let digits := cs.takeWhile Text.isDecimalDigit
  let n := digits.foldl (fun n c => 10 * n + (Text.decimalDigit? c).getD 0) 0
  if digits.isEmpty then .ok (none, cs)
  else if maxNumber < n then .error .tooManyDigits
  else .ok (some n, cs.dropWhile Text.isDecimalDigit)

/-- Takes one of some characters from the front. -/
def takeOne (admitted : List Char) (cs : List Char) : Option Char × List Char :=
  match cs with
  | c :: rest => if admitted.contains c then (some c, rest) else (none, cs)
  | [] => (none, [])

/-- Takes the filler and the side from the front. -/
def takeSide (cs : List Char) : Option Char × Option Side × List Char :=
  match cs with
  | f :: c :: rest =>
    match sides.lookup c, sides.lookup f with
    | some side, _ => (some f, some side, rest)
    | none, some side => (none, some side, c :: rest)
    | none, none => (none, none, cs)
  | [c] =>
    match sides.lookup c with
    | some side => (none, some side, [])
    | none => (none, none, cs)
  | [] => (none, none, [])

/-- Takes the signs between groups from the front. -/
def takeSeparator (cs : List Char) : Except LayoutError (Option Char × List Char) :=
  let (comma, rest) := takeOne [','] cs
  let (underscore, rest) := takeOne ['_'] rest
  if comma.isSome && underscore.isSome then .error .bothSeparators
  else if underscore.isSome && rest.head? = some ',' then .error .bothSeparators
  else .ok (comma.or underscore, rest)

/-- The forms whose digits may be grouped in any way. -/
def groupedForms : List Char := ['d', 'e', 'f', 'g', 'E', 'G', '%', 'F']

/-- The forms whose digits may be grouped by underscores. -/
def bitForms : List Char := ['b', 'o', 'x', 'X']

/-- Checks that the digits of a form may be grouped. -/
def checkSeparator (separator : Option Char) (form : Option Char) : Except LayoutError Unit :=
  match separator, form with
  | some s, some f =>
    if groupedForms.contains f || (s == '_' && bitForms.contains f) then .ok ()
    else .error (.separatorWithForm s f)
  | _, _ => .ok ()

/-- Reads the layout of a value of some kind. `usual` is the form without a letter, and
numbers stand at the right unless something else is said. -/
def Layout.read (kind : String) (usual : Option Char) (isNumber : Bool) (text : String) :
    Except LayoutError Layout := do
  let (filler, side, rest) := takeSide text.toList
  let (sign, rest) := takeOne ['+', '-', ' '] rest
  let (zero, rest) := takeOne ['z'] rest
  let (alternate, rest) := takeOne ['#'] rest
  let (padded, rest) := if filler.isNone then takeOne ['0'] rest else (none, rest)
  let (width, rest) ← takeNumber? rest
  let (separator, rest) ← takeSeparator rest
  let (precision, rest) ← match rest with
    | '.' :: rest => do
      let (n, rest) ← takeNumber? rest
      if n.isNone then throw .noPrecision
      pure (n, rest)
    | rest => pure (none, rest)
  let form ← match rest with
    | [] => pure usual
    | [c] => pure (some c)
    | _ => throw (.invalid text kind)
  checkSeparator separator form
  if maxWidth < width.getD 0 then throw .tooWide
  let usualSide : Side :=
    if !isNumber then .left else if padded.isSome then .split else .right
  pure
    { filler := filler.getD (if padded.isSome then '0' else ' ')
      side := side.getD usualSide
      sign
      unsignedZero := zero.isSome
      alternate := alternate.isSome
      width
      separator
      precision
      form }

/-- Checks that a double can be told with the precision of the layout. -/
def Layout.checkPrecision (l : Layout) : Except LayoutError Unit :=
  let precision := l.precision.getD 0
  if maxPrecision < precision then .error .tooPrecise
  else if maxWidth < precision then .error .tooWide
  else .ok ()

/-- Characters filled up to the width of the layout. -/
def Layout.fill (l : Layout) (cs : List Char) : List Char :=
  let missing := (l.width.getD 0) - cs.length
  let fillers (n : Nat) : List Char := List.replicate n l.filler
  match l.side with
  | .left => cs ++ fillers missing
  | .center => fillers (missing / 2) ++ cs ++ fillers (missing - missing / 2)
  | .right | .split => fillers missing ++ cs

/-- A text as it is laid out. -/
def layText (text value : String) : Except LayoutError String := do
  let l ← Layout.read "str" (some 's') false text
  let place := "in string format specifier"
  if l.form ≠ some 's' then throw (.unknownForm (l.form.getD ' ') "str")
  if l.sign = some ' ' then throw (.notAllowed "Space" place)
  if l.sign.isSome then throw (.notAllowed "Sign" place)
  if l.unsignedZero then throw (.notAllowed "Negative zero coercion (z)" place)
  if l.alternate then throw (.notAllowed "Alternate form (#)" place)
  if l.side = .split then throw (.notAllowed "'=' alignment" place)
  let cs := value.toList
  pure (String.ofList (l.fill ((l.precision.map fun n => cs.take n).getD cs)))

end HttpInterface.Format
