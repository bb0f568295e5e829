import HttpInterface.Bytes
import HttpInterface.Charset.Utf16
import HttpInterface.Charset.Utf8
import HttpInterface.Text.Quoted
import HttpInterface.Text.Split

/-!
# `HttpInterface.Charset`: charsets by name

A charset turns a text into bytes and bytes into a text. It is asked for by a
name in free spelling: letter case does not count, and any run of characters
other than letters, digits and points is as good as one underscore. A name is
looked up only when there is something to encode or decode.

Encoding can fail at a character that the charset lacks. Decoding replaces what
it cannot read. One known name, `rot13`, stands for a mapping between texts and
can do neither.

Eight charsets are known: UTF-8 with a mark and without, UTF-16 with a mark and in
either order of bytes, ASCII, Latin-1 and Windows-1252. The others that a library
offers are left out, so their names are unknown here (`lookUp`).
-/

set_option autoImplicit false

namespace HttpInterface.Charset

/-! ### Tables of single bytes -/

/-- A charset with one byte per character. -/
inductive SingleByte where
  | ascii
  | latin1
  | windows1252
  deriving DecidableEq, Repr

namespace SingleByte

/-- The code points of the bytes `0x80` to `0x9F` in Windows-1252, zero where
the byte has none. -/
def windows1252Block : List Nat :=
  [0x20AC, 0, 0x201A, 0x0192, 0x201E, 0x2026, 0x2020, 0x2021,
   0x02C6, 0x2030, 0x0160, 0x2039, 0x0152, 0, 0x017D, 0,
   0, 0x2018, 0x2019, 0x201C, 0x201D, 0x2022, 0x2013, 0x2014,
   0x02DC, 0x2122, 0x0161, 0x203A, 0x0153, 0, 0x017E, 0x0178]

/-- The byte of a character. -/
def byte? : SingleByte → Char → Option UInt8
  | .ascii, c => if c.toNat < 0x80 then some (UInt8.ofNat c.toNat) else none
  | .latin1, c => if c.toNat < 0x100 then some (UInt8.ofNat c.toNat) else none
  | .windows1252, c =>
    if c.toNat < 0x80 ∨ (0xA0 ≤ c.toNat ∧ c.toNat < 0x100) then
      some (UInt8.ofNat c.toNat)
    else if c.toNat < 0x100 then none
    else (windows1252Block.idxOf? c.toNat).map fun i => UInt8.ofNat (0x80 + i)

/-- The character of a byte. -/
def char? : SingleByte → UInt8 → Option Char
  | .ascii, b => if b < 0x80 then some (Char.ofNat b.toNat) else none
  | .latin1, b => some (Char.ofNat b.toNat)
  | .windows1252, b =>
    if b < 0x80 ∨ 0xA0 ≤ b then some (Char.ofNat b.toNat)
    else
      match windows1252Block[b.toNat - 0x80]? with
      | none => none
      | some 0 => none
      | some n => some (Char.ofNat n)

/-- A run of characters without bytes, as the first such run in a text: its
first character, and the positions of its first and its last. -/
structure Gap where
  char : Char
  first : Nat
  last : Nat
  deriving DecidableEq, Repr

/-- The bytes of a text, or the first run of characters that have none. -/
def encode (table : SingleByte) (cs : List Char) : Except Gap Bytes :=
  let has (c : Char) : Bool := (table.byte? c).isSome
  match cs.dropWhile has with
  | [] => .ok (cs.filterMap table.byte?)
  | c :: rest =>
    let first := (cs.takeWhile has).length
    .error ⟨c, first, first + (rest.takeWhile (!has ·)).length⟩

/-- Reads bytes. -/
def decode (table : SingleByte) (bytes : Bytes) : List Char :=
  bytes.map fun b => (table.char? b).getD replacementChar

end SingleByte

end HttpInterface.Charset

/-! ### Charsets by name -/

namespace HttpInterface

/-- A charset that a name can stand for. -/
inductive Charset where
  | utf8
  /-- UTF-8 with a mark in front. -/
  | utf8Marked
  /-- UTF-16 with a mark in front that states the byte order. -/
  | utf16
  /-- UTF-16 without a mark. -/
  | utf16Plain (order : Charset.Utf16.Order)
  | singleByte (table : Charset.SingleByte)
  /-- A mapping between texts, which has no bytes. -/
  | rot13
  deriving DecidableEq, Repr

/-- Whether bytes are to be made or to be read. -/
inductive CodingDirection where
  | encode
  | decode
  deriving DecidableEq, Repr

/-- Why a text has no bytes, or bytes no text. -/
inductive CodingError where
  /-- No charset has this name. -/
  | unknownCharset (name : String)
  /-- The name holds the character zero. -/
  | nulInName
  /-- The name stands for a mapping between texts. -/
  | noTextCharset (name : String) (direction : CodingDirection)
  /-- The charset lacks some characters of the text. -/
  | unencodable (table : Charset.SingleByte) (gap : Charset.SingleByte.Gap)
  /-- A charset is asked for by something of this kind, which is no name. -/
  | noName (direction : CodingDirection) (kind : String)
  deriving DecidableEq, Repr

namespace Charset

/-- The name that a spelling comes down to. -/
def normalName (name : String) : String :=
  let simple := name.toList.map fun c =>
    if c.isAlphanum || c == '.' then c.toLower else '_'
  let words := (Text.splitOn '_' simple).filter fun w => !w.isEmpty
  String.ofList (Text.joinWith '_' words)

/-- The charsets by their own names. -/
def ownNames : List (String × Charset) :=
  [("utf_8", .utf8), ("utf_8_sig", .utf8Marked), ("utf_16", .utf16),
   ("utf_16_le", .utf16Plain .littleEndian), ("utf_16_be", .utf16Plain .bigEndian),
   ("ascii", .singleByte .ascii), ("latin_1", .singleByte .latin1),
   ("iso8859_1", .singleByte .latin1), ("cp1252", .singleByte .windows1252),
   ("rot_13", .rot13)]

/-- Other names that charsets have. -/
def otherNames : List (String × Charset) :=
  [("u8", .utf8), ("utf", .utf8), ("utf8", .utf8), ("utf8_ucs2", .utf8),
   ("utf8_ucs4", .utf8), ("cp65001", .utf8),
   ("u16", .utf16), ("utf16", .utf16),
   ("unicodelittleunmarked", .utf16Plain .littleEndian),
   ("utf_16le", .utf16Plain .littleEndian),
   ("unicodebigunmarked", .utf16Plain .bigEndian),
   ("utf_16be", .utf16Plain .bigEndian),
   ("646", .singleByte .ascii), ("ansi_x3.4_1968", .singleByte .ascii),
   ("ansi_x3_4_1968", .singleByte .ascii), ("ansi_x3.4_1986", .singleByte .ascii),
   ("cp367", .singleByte .ascii), ("csascii", .singleByte .ascii),
   ("ibm367", .singleByte .ascii), ("iso646_us", .singleByte .ascii),
   ("iso_646.irv_1991", .singleByte .ascii), ("iso_ir_6", .singleByte .ascii),
   ("us", .singleByte .ascii), ("us_ascii", .singleByte .ascii),
   ("8859", .singleByte .latin1), ("cp819", .singleByte .latin1),
   ("csisolatin1", .singleByte .latin1), ("ibm819", .singleByte .latin1),
   ("iso8859", .singleByte .latin1), ("iso8859_1", .singleByte .latin1),
   ("iso_8859_1", .singleByte .latin1),
   ("iso_8859_1_1987", .singleByte .latin1), ("iso_ir_100", .singleByte .latin1),
   ("l1", .singleByte .latin1), ("latin", .singleByte .latin1),
   ("latin1", .singleByte .latin1),
   ("1252", .singleByte .windows1252), ("windows_1252", .singleByte .windows1252),
   ("rot13", .rot13)]

/-- The charset of a name. A point may stand for an underscore in the other
names, but in no charset's own name. -/
def ofName? (name : String) : Option Charset :=
  let normal := normalName name
  let underscored := String.ofList (normal.toList.map fun c => if c = '.' then '_' else c)
  (otherNames.lookup normal).or ((otherNames.lookup underscored).or (ownNames.lookup normal))

/-- The charset that is asked for by a name. -/
def lookUp (name : String) : Except CodingError Charset :=
  if '\x00' ∈ name.toList then .error .nulInName
  else
    match ofName? name with
    | some charset => .ok charset
    | none => .error (.unknownCharset name)

/-- The bytes of a text. `name` is how the charset was asked for. -/
def encodeAs (charset : Charset) (name : String) (cs : List Char) :
    Except CodingError Bytes :=
  match charset with
  | .utf8 => .ok (Utf8.encode cs)
  | .utf8Marked => .ok (Utf8.mark ++ Utf8.encode cs)
  | .utf16 => .ok (Utf16.mark ++ Utf16.encode .littleEndian cs)
  | .utf16Plain order => .ok (Utf16.encode order cs)
  | .singleByte table =>
    match table.encode cs with
    | .ok bytes => .ok bytes
    | .error gap => .error (.unencodable table gap)
  | .rot13 => .error (.noTextCharset name .encode)

/-- The text of bytes. `name` is how the charset was asked for. -/
def decodeAs (charset : Charset) (name : String) (bytes : Bytes) :
    Except CodingError (List Char) :=
  match charset with
  | .utf8 => .ok (Utf8.decode bytes)
  | .utf8Marked => .ok (Utf8.decode (Utf8.dropMark bytes))
  | .utf16 => .ok (Utf16.decodeMarked bytes)
  | .utf16Plain order => .ok (Utf16.decode order bytes)
  | .singleByte table => .ok (table.decode bytes)
  | .rot13 => .error (.noTextCharset name .decode)

/-- The bytes of a text in the charset of a name. -/
def encode (name : String) (cs : List Char) : Except CodingError Bytes := do
  (← lookUp name).encodeAs name cs

/-- The text of bytes in the charset of a name. -/
def decode (name : String) (bytes : Bytes) : Except CodingError (List Char) := do
  (← lookUp name).decodeAs name bytes

/-- How a message calls a table of characters. -/
def SingleByte.label : SingleByte → String
  | .ascii => "ascii"
  | .latin1 => "latin-1"
  | .windows1252 => "charmap"

/-- Why a table lacks a character. -/
def SingleByte.limit : SingleByte → String
  | .ascii => "ordinal not in range(128)"
  | .latin1 => "ordinal not in range(256)"
  | .windows1252 => "character maps to <undefined>"

end Charset

/-- How a message calls a direction. -/
def CodingDirection.verb : CodingDirection → String
  | .encode => "encode"
  | .decode => "decode"

/-- The message of a coding error. -/
def CodingError.message : CodingError → String
  | .unknownCharset name => s!"unknown encoding: {name}"
  | .nulInName => "embedded null character"
  | .noTextCharset name direction =>
    s!"'{name}' is not a text encoding; use codecs.{direction.verb}() to handle arbitrary codecs"
  | .noName direction kind =>
    s!"{direction.verb}() argument 'encoding' must be str, not {kind}"
  | .unencodable table gap =>
    let what :=
      if gap.first = gap.last then
        s!"character '{String.ofList (Text.codeEscape gap.char)}' in position {gap.first}"
      else s!"characters in position {gap.first}-{gap.last}"
    s!"'{table.label}' codec can't encode {what}: {table.limit}"

end HttpInterface
