import HttpInterface.Charset
import HttpInterface.Text.CharName

/-!
# `HttpInterface.Charset.Recovery`: what stands for what has no bytes or no text

A charset that lacks a character, and bytes that are no text in a charset, need not be a
failure: the character or the bytes may be left out, or something else may stand for them.
What does is asked for by a name, which is looked up only when it is needed.
-/

set_option autoImplicit false

namespace HttpInterface.Charset

/-- What is done about a character without bytes, or about bytes without a character. -/
inductive Recovery where
  /-- Coding fails. -/
  | strict
  | leaveOut
  /-- A mark stands for what is missing. -/
  | mark
  /-- A code point or a byte is written as an escape. -/
  | escape
  /-- A character is written by the decimal number of its code point. -/
  | reference
  /-- A character is written by its name. -/
  | byName
  deriving DecidableEq, Repr

namespace Recovery

/-- The ways to recover by their names. Two of them are about halves of pairs, which no text
holds, and are as good as failing. -/
def names : List (String × Recovery) :=
  [("strict", .strict), ("ignore", .leaveOut), ("replace", .mark), ("backslashreplace", .escape),
   ("xmlcharrefreplace", .reference), ("namereplace", .byName), ("surrogateescape", .strict),
   ("surrogatepass", .strict)]

/-- The text that stands for a character without bytes. -/
def forChar (r : Recovery) (c : Char) : List Char :=
  match r with
  | strict => [c]
  | leaveOut => []
  | mark => ['?']
  | escape => Text.codeEscape c
  | reference => ("&#" ++ toString c.toNat ++ ";").toList
  | byName =>
    match Text.nameOf? c with
    | some name => ("\\N\x7b" ++ name ++ "\x7d").toList
    | none => Text.codeEscape c

/-- The text that stands for bytes without a character, if this is a way to read. -/
def forBytes? (r : Recovery) (bytes : Bytes) : Option (List Char) :=
  match r with
  | leaveOut => some []
  | mark => some [replacementChar]
  | escape => some (bytes.flatMap fun b => Text.codeEscape (Char.ofNat b.toNat))
  | _ => none

end Recovery

/-! ### Gaps -/

/-- Why bytes are no text in a charset, and where. -/
structure DecodingGap where
  first : Nat
  last : Nat
  reason : String
  deriving DecidableEq, Repr

namespace DecodingGap

/-- The same gap so many bytes further on. -/
def shift (gap : DecodingGap) (count : Nat) : DecodingGap :=
  { gap with first := gap.first + count, last := gap.last + count }

/-- What is said of bytes that are no text. -/
def message (gap : DecodingGap) (charset : String) (bs : Bytes) : String :=
  let what :=
    if gap.first = gap.last then
      let shown := String.ofList (Text.lowerHex 2 ((bs.getD gap.first 0).toNat))
      s!"byte 0x{shown} in position {gap.first}"
    else s!"bytes in position {gap.first}-{gap.last}"
  s!"'{charset}' codec can't decode {what}: {gap.reason}"

end DecodingGap

namespace Utf8

/-- The least and the greatest second byte behind a first one. -/
def secondByteBounds (lead : UInt8) : UInt8 × UInt8 :=
  if lead == 0xE0 then (0xA0, 0xBF)
  else if lead == 0xED then (0x80, 0x9F)
  else if lead == 0xF0 then (0x90, 0xBF)
  else if lead == 0xF4 then (0x80, 0x8F)
  else (0x80, 0xBF)

/-- How many bytes follow a first one. -/
def followers? (lead : UInt8) : Option Nat :=
  if lead < 0x80 then some 0
  else if 0xC2 ≤ lead && lead ≤ 0xDF then some 1
  else if 0xE0 ≤ lead && lead ≤ 0xEF then some 2
  else if 0xF0 ≤ lead && lead ≤ 0xF4 then some 3
  else none

/-- The first place where bytes are no text; `fuel` bounds how many there are. -/
def gap? (fuel position : Nat) (bs : Bytes) : Option DecodingGap :=
  match fuel, bs with
  | 0, _ | _, [] => none
  | fuel + 1, lead :: rest =>
    match followers? lead with
    | none => some ⟨position, position, "invalid start byte"⟩
    | some count =>
      let (least, greatest) := secondByteBounds lead
      let fits (i : Nat) (b : UInt8) : Bool :=
        if i = 0 then least ≤ b && b ≤ greatest else 0x80 ≤ b && b ≤ 0xBF
      let good := ((rest.take count).zipIdx.takeWhile fun e => fits e.2 e.1).length
      if good = count then gap? fuel (position + 1 + count) (rest.drop count)
      else if rest.length = good then
        some ⟨position, position + good, "unexpected end of data"⟩
      else some ⟨position, position + good, "invalid continuation byte"⟩

end Utf8

namespace Utf16

/-- The first place where bytes are no text in a byte order. -/
def gap? (order : Order) (position : Nat) : Bytes → Option DecodingGap
  | [] => none
  | [_] => some ⟨position, position, "truncated data"⟩
  | a :: b :: rest =>
    let unit := unitOf order a b
    if isLowSurrogate unit then some ⟨position, position + 1, "illegal encoding"⟩
    else if isHighSurrogate unit then
      match rest with
      | c :: d :: others =>
        if isLowSurrogate (unitOf order c d) then gap? order (position + 4) others
        else some ⟨position, position + 1, "illegal UTF-16 surrogate"⟩
      | short => some ⟨position, position + 1 + short.length, "unexpected end of data"⟩
    else gap? order (position + 2) rest

end Utf16

/-- How messages call a charset whose bytes may be no text. -/
def gapLabel : Charset → String
  | .utf8 | .utf8Marked | .rot13 => "utf-8"
  | .utf16 | .utf16Plain .littleEndian => "utf-16-le"
  | .utf16Plain .bigEndian => "utf-16-be"
  | .singleByte table => table.label

/-- The first place where bytes are no text in a charset. -/
def gap? (charset : Charset) (bs : Bytes) : Option DecodingGap :=
  match charset with
  | .utf8 | .utf8Marked => Utf8.gap? (bs.length + 1) 0 bs
  | .utf16 => Utf16.gap? .littleEndian 0 bs
  | .utf16Plain order => Utf16.gap? order 0 bs
  | .singleByte table =>
    (bs.findIdx? fun b => (table.char? b).isNone).map fun i => ⟨i, i, table.limit⟩
  | .rot13 => none

/-- The charset that bytes are read in when their mark has been seen, and how many of them
the mark takes. -/
def withoutMark (charset : Charset) (bs : Bytes) : Charset × Nat :=
  match charset, bs with
  | .utf16, 0xFE :: 0xFF :: _ => (.utf16Plain .bigEndian, 2)
  | .utf16, 0xFF :: 0xFE :: _ => (.utf16Plain .littleEndian, 2)
  | .utf16, _ => (.utf16Plain .littleEndian, 0)
  | .utf8Marked, bs => (.utf8, bs.length - (Utf8.dropMark bs).length)
  | other, _ => (other, 0)

/-- Reads bytes, with something in the place of those that are no text; `fuel` bounds how
often there are such bytes. -/
def Recovery.decode (r : Recovery) (charset : Charset) (fuel : Nat) (bs : Bytes) : List Char :=
  let read (bs : Bytes) : List Char := (charset.decodeAs "" bs).toOption.getD []
  match fuel, charset.gap? bs with
  | fuel + 1, some gap =>
    let missing := (bs.drop gap.first).take (gap.last + 1 - gap.first)
    read (bs.take gap.first) ++ (r.forBytes? missing).getD [] ++
      r.decode charset fuel (bs.drop (gap.last + 1))
  | _, _ => read bs

/-- The letter case and the spelling of a name of a charset that is known at once. -/
def isPlainName (name : String) : Bool :=
  ["utf_8", "utf8", "utf_16", "utf16", "ascii", "us_ascii", "latin1", "latin_1", "iso_8859_1",
    "iso8859_1"].contains (normalName name)

end HttpInterface.Charset
