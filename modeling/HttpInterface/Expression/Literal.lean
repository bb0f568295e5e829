import HttpInterface.Charset.Utf8
import HttpInterface.Constant
import HttpInterface.Decimal.Read
import HttpInterface.Decimal.Shortest
import HttpInterface.Text.CharName
import HttpInterface.Text.Digit
import HttpInterface.Text.NameChar

/-!
# `HttpInterface.Expression.Literal`: numbers and quoted texts in an expression

A number is whole, with digits of base ten, sixteen, eight or two, or it has a
point or an exponent; single underscores may part its digits. A text stands
between single or triple quotes, and letters in front of the quotes say how it is
read: `r` keeps backslashes, `b` makes bytes.
-/

set_option autoImplicit false

namespace HttpInterface.Expression

/-! ### Numbers -/

/-- Reads on in a run of digits, with single underscores among them. -/
def readDigits? (isDigit : Char → Bool) : List Char → Option (List Char × List Char)
  | '_' :: c :: rest =>
    if isDigit c then (readDigits? isDigit rest).map fun (ds, r) => (c :: ds, r) else none
  | ['_'] => none
  | c :: rest =>
    if isDigit c then (readDigits? isDigit rest).map fun (ds, r) => (c :: ds, r)
    else some ([], c :: rest)
  | [] => some ([], [])

/-- The number that digits make in a base. -/
def valueInBase (base : Nat) (digits : List Char) : Nat :=
  digits.foldl (fun n c => base * n + (Text.hexDigit? c).getD 0) 0

/-- A digit of a base. -/
def isDigitOf (base : Nat) (c : Char) : Bool :=
  (Text.hexDigit? c).any (· < base)

/-- The words that may follow a number without a blank between. -/
def wordsBehindNumbers : List String := ["and", "else", "for", "if", "in", "is", "or", "not"]

/-- Nothing that belongs to a name follows, unless one of the words does. -/
def endsNumber (cs : List Char) : Bool :=
  match cs with
  | [] => true
  | c :: _ =>
    !(c.toNat ≥ 0x80 || c.isAlphanum || c == '_') ||
      wordsBehindNumbers.any fun word => word.toList.isPrefixOf cs

/-- A number in a base other than ten, behind its mark. -/
def readInBase? (base : Nat) (cs : List Char) : Option (Constant × List Char) := do
  let (digits, rest) ← readDigits? (isDigitOf base) (if cs.head? = some '_' then cs else '0' :: cs)
  let count := if cs.head? = some '_' then digits.length else digits.length - 1
  if count = 0 || !endsNumber rest || (rest.head?.any Char.isDigit) then none
  else some (.int (valueInBase base digits), rest)

/-- Reads an exponent, if there is one. A sign has to be followed by digits. -/
def readExponent? (cs : List Char) : Option (List Char × List Char) :=
  match cs with
  | e :: sign :: rest =>
    if e != 'e' && e != 'E' then some ([], cs)
    else if sign.isDigit then
      (readDigits? Char.isDigit (sign :: rest)).map fun (ds, r) => ('e' :: ds, r)
    else if sign == '+' || sign == '-' then
      if rest.head?.any Char.isDigit then
        (readDigits? Char.isDigit rest).map fun (ds, r) => ('e' :: sign :: ds, r)
      else none
    else some ([], cs)
  | _ => some ([], cs)

/-- Reads a point and the digits behind it, if there is a point. -/
def readFraction? (cs : List Char) : Option (List Char × List Char) :=
  match cs with
  | '.' :: rest =>
    if rest.head?.any Char.isDigit then
      (readDigits? Char.isDigit rest).map fun (ds, r) => ('.' :: ds, r)
    else some (['.'], rest)
  | _ => some ([], cs)

/-- The text of the number nearest to a numeral. -/
def nearestText (numeral : List Char) : String :=
  Decimal.floatText ((Decimal.readFloat? (String.ofList numeral)).getD 0.0)

/-- Reads a number in base ten. A whole number does not start with a needless
zero, and it has not too many digits. -/
def readDecimal? (cs : List Char) : Option (Constant × List Char) := do
  let (whole, rest) ←
    if cs.head?.any Char.isDigit then readDigits? Char.isDigit cs else some ([], cs)
  let (fraction, rest) ← readFraction? rest
  let (exponent, rest) ← readExponent? rest
  let numeral := whole ++ fraction ++ exponent
  match rest with
  | c :: behind =>
    if c == 'j' || c == 'J' then
      if endsNumber behind then
        return (.complex "0.0" (nearestText numeral), behind)
      else none
  | [] => pure ()
  if !endsNumber rest then none
  else if !(fraction.isEmpty && exponent.isEmpty) then
    some (.float (nearestText numeral), rest)
  else if whole.head? = some '0' && whole.any (· ≠ '0') then none
  else if Text.maxDigits < whole.length then none
  else some (.int (valueInBase 10 whole), rest)

/-- Reads a number; it starts with a digit, or a point and a digit. -/
def readNumber? : List Char → Option (Constant × List Char)
  | '0' :: c :: rest =>
    if c == 'x' || c == 'X' then readInBase? 16 rest
    else if c == 'o' || c == 'O' then readInBase? 8 rest
    else if c == 'b' || c == 'B' then readInBase? 2 rest
    else readDecimal? ('0' :: c :: rest)
  | cs => readDecimal? cs

/-! ### Quoted texts -/

/-- How a quoted text is read. -/
structure QuoteStyle where
  raw : Bool
  bytes : Bool
  /-- Braces stand for values. -/
  formatted : Bool
  deriving DecidableEq, Repr

/-- The letters that may stand in front of quotes, in lower case. -/
def quoteStyles : List (String × QuoteStyle) :=
  [("", ⟨false, false, false⟩), ("u", ⟨false, false, false⟩), ("r", ⟨true, false, false⟩),
   ("b", ⟨false, true, false⟩), ("br", ⟨true, true, false⟩), ("rb", ⟨true, true, false⟩),
   ("f", ⟨false, false, true⟩), ("fr", ⟨true, false, true⟩), ("rf", ⟨true, false, true⟩)]

/-- Reads up to a single quote, on one line. -/
def readSingle? (quote : Char) : List Char → Option (List Char × List Char)
  | '\\' :: c :: rest => (readSingle? quote rest).map fun (body, r) => ('\\' :: c :: body, r)
  | c :: rest =>
    if c = quote then some ([], rest)
    else if c = '\n' || c = '\\' then none
    else (readSingle? quote rest).map fun (body, r) => (c :: body, r)
  | [] => none

/-- Reads up to a triple quote. -/
def readTriple? (quote : Char) : List Char → Option (List Char × List Char)
  | '\\' :: c :: rest => (readTriple? quote rest).map fun (body, r) => ('\\' :: c :: body, r)
  | c :: rest =>
    if c = quote && [quote, quote].isPrefixOf rest then some ([], rest.drop 2)
    else if c = '\\' then none
    else (readTriple? quote rest).map fun (body, r) => (c :: body, r)
  | [] => none

/-- Reads what stands between quotes, the first quote included. -/
def readBody? : List Char → Option (List Char × List Char)
  | q :: rest =>
    if [q, q].isPrefixOf rest then readTriple? q (rest.drop 2) else readSingle? q rest
  | [] => none

/-- The characters that a backslash and one more character stand for. -/
def simpleEscapes : List (Char × Char) :=
  [('\\', '\\'), ('\'', '\''), ('"', '"'), ('a', '\x07'), ('b', '\x08'), ('f', '\x0c'),
   ('n', '\n'), ('r', '\r'), ('t', '\t'), ('v', '\x0b')]

/-- The character of a code point, if there is one. -/
def charOf? (n : Nat) : Option Char :=
  if n.isValidChar then some (Char.ofNat n) else none

/-- The character of a fixed count of hexadecimal digits, and what follows. -/
def readHexChar? (count : Nat) (cs : List Char) : Option (Char × List Char) :=
  let digits := cs.take count
  if digits.length = count && digits.all (isDigitOf 16) then
    (charOf? (valueInBase 16 digits)).map fun c => (c, cs.drop count)
  else none

/-- The character of a name between braces, and what follows. -/
def readNamedChar? : List Char → Option (List Char × List Char)
  | '\x7b' :: rest =>
    match rest.dropWhile (· ≠ '\x7d') with
    | _ :: behind =>
      (Text.charNamed? (String.ofList (rest.takeWhile (· ≠ '\x7d')))).map fun c => ([c], behind)
    | [] => none
  | _ => none

/-- The escape behind a backslash: the characters that it stands for, and what
follows. A backslash in front of any other character stands for itself. -/
def readEscape? (bytes : Bool) (cs : List Char) : Option (List Char × List Char) :=
  let hex (count : Nat) (rest : List Char) : Option (List Char × List Char) :=
    (readHexChar? count rest).map fun (c, r) => ([c], r)
  match cs with
  | [] => none
  | '\n' :: rest => some ([], rest)
  | c :: rest =>
    if let some d := simpleEscapes.lookup c then some ([d], rest)
    else if c = 'x' then hex 2 rest
    else if c = 'u' && !bytes then hex 4 rest
    else if c = 'U' && !bytes then hex 8 rest
    else if c = 'N' && !bytes then readNamedChar? rest
    else if isDigitOf 8 c then
      let digits := (cs.take 3).takeWhile (isDigitOf 8)
      let value := valueInBase 8 digits
      (charOf? (if bytes then value % 256 else value)).map fun d => ([d], cs.drop digits.length)
    else some (['\\', c], rest)

/-- A body with its escapes replaced. -/
def unescape? (bytes : Bool) (cs : List Char) : Option (List Char) :=
  match cs with
  | [] => some []
  | '\\' :: rest =>
    match readEscape? bytes rest with
    | some (chars, behind) =>
      if _h : behind.length ≤ rest.length then (unescape? bytes behind).map (chars ++ ·) else none
    | none => none
  | c :: rest => (unescape? bytes rest).map (c :: ·)
termination_by cs.length
decreasing_by
  · exact Nat.lt_succ_of_le _h
  · exact Nat.lt_succ_self _

/-- What a quoted text of a style without gaps stands for. -/
def quotedConstant? (style : QuoteStyle) (body : List Char) : Option Constant := do
  if style.bytes && body.any (0x80 ≤ ·.toNat) then none
  else
    let chars ← if style.raw then some body else unescape? style.bytes body
    if style.bytes then some (.bytes (chars.map fun c => UInt8.ofNat c.toNat))
    else some (.text (String.ofList chars))

end HttpInterface.Expression
