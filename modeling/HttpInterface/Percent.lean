import HttpInterface.Charset

/-!
# `HttpInterface.Percent`: percent-coding

Quoting keeps the unreserved characters, which are the ASCII letters, the digits
and `_`, `.`, `-`, `~`, and writes every other byte as `%` with two upper-case
digits. Unquoting reads each unbroken run of ASCII characters on its own: its
escapes and its plain characters become bytes, and the bytes are decoded.
Characters outside ASCII stand between the runs unchanged, an escape that is not
complete stays as it is, and a text without `%` is not touched at all.
-/

set_option autoImplicit false

namespace HttpInterface.Percent

/-- A character that quoting keeps. -/
def isUnreserved (c : Char) : Bool :=
  c.isAlphanum || c == '_' || c == '.' || c == '-' || c == '~'

/-- The escape of a byte. -/
def escape (b : UInt8) : List Char :=
  ['%', Text.upperHexDigit (b.toNat / 16), Text.upperHexDigit (b.toNat % 16)]

/-- One byte of a quoted text. -/
def quoteByte (b : UInt8) : List Char :=
  if isUnreserved (Char.ofNat b.toNat) then [Char.ofNat b.toNat] else escape b

/-- The quoted text of bytes. -/
def quoteBytes (bytes : Bytes) : List Char :=
  bytes.flatMap quoteByte

/-- A text quoted as UTF-8. -/
def quote (text : String) : String :=
  String.ofList (quoteBytes (Charset.Utf8.encode text.toList))

/-- A text quoted in the charset of a name. The empty text asks for no
charset. -/
def quoteIn (charset : String) (text : String) : Except CodingError String :=
  match text.toList with
  | [] => .ok ""
  | cs => (Charset.encode charset cs).map fun bytes => String.ofList (quoteBytes bytes)

/-- A part of a text to unquote. -/
inductive Segment where
  /-- A run of ASCII characters. -/
  | ascii (run : List Char)
  /-- A character outside ASCII. -/
  | other (c : Char)
  deriving DecidableEq, Repr

/-- Puts one more character in front of segments. -/
def Segment.attach (c : Char) (segments : List Segment) : List Segment :=
  if c.toNat < 0x80 then
    match segments with
    | .ascii run :: rest => .ascii (c :: run) :: rest
    | rest => .ascii [c] :: rest
  else .other c :: segments

/-- The segments of a text: its runs of ASCII characters are as long as they can
be. -/
def segments (cs : List Char) : List Segment :=
  cs.foldr Segment.attach []

/-- The byte of two hexadecimal digits. -/
def byteOfDigits? (high low : Char) : Option UInt8 := do
  let h ← Text.hexDigit? high
  let l ← Text.hexDigit? low
  pure (UInt8.ofNat (h * 16 + l))

/-- The bytes of a run of ASCII characters. -/
def bytesOfRun : List Char → Bytes
  | '%' :: high :: low :: rest =>
    match byteOfDigits? high low with
    | some b => b :: bytesOfRun rest
    | none => UInt8.ofNat '%'.toNat :: bytesOfRun (high :: low :: rest)
  | c :: rest => UInt8.ofNat c.toNat :: bytesOfRun rest
  | [] => []

/-- The text of a segment. -/
def Segment.unquoted (charset : String) : Segment → Except CodingError (List Char)
  | .ascii run => Charset.decode charset (bytesOfRun run)
  | .other c => .ok [c]

/-- A text with its escapes decoded in the charset of a name. -/
def unquoteIn (charset : String) (text : String) : Except CodingError String :=
  if '%' ∈ text.toList then do
    let parts ← (segments text.toList).mapM (Segment.unquoted charset)
    pure (String.ofList parts.flatten)
  else .ok text

/-- A text with its escapes decoded as UTF-8. -/
def unquote (text : String) : String :=
  ((unquoteIn "utf-8" text).toOption).getD text

end HttpInterface.Percent
