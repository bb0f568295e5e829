import HttpInterface.Text.Digit
import HttpInterface.Text.Unprintable

/-!
# `HttpInterface.Text.Quoted`: a text shown between quotes

The form in which a message shows a text that may hold anything. The quote is
an apostrophe, unless the text holds an apostrophe and no double quote. The
quote itself, the backslash and every character that would not print are
escaped; all others stand as they are.
-/

set_option autoImplicit false

namespace HttpInterface.Text

/-- The code point of `c` as an escape of two, four or eight digits, whichever
is the first to hold it. -/
def codeEscape (c : Char) : List Char :=
  if c.toNat ≤ 0xFF then '\\' :: 'x' :: lowerHex 2 c.toNat
  else if c.toNat ≤ 0xFFFF then '\\' :: 'u' :: lowerHex 4 c.toNat
  else '\\' :: 'U' :: lowerHex 8 c.toNat

/-- One character inside `quote`. -/
def quotedChar (quote c : Char) : List Char :=
  if c = quote ∨ c = '\\' then ['\\', c]
  else if c = '\n' then ['\\', 'n']
  else if c = '\r' then ['\\', 'r']
  else if c = '\t' then ['\\', 't']
  else if isPrintable c then [c]
  else codeEscape c

/-- The quote that needs the fewest escapes, an apostrophe when both do. -/
def quoteFor (cs : List Char) : Char :=
  if '\x27' ∈ cs ∧ '"' ∉ cs then '"' else '\x27'

/-- A text between quotes. -/
def quoted (s : String) : String :=
  let quote := quoteFor s.toList
  String.ofList (quote :: s.toList.flatMap (quotedChar quote) ++ [quote])

/-- Bytes between quotes, marked by a `b` in front: an ASCII character where the
byte is one that prints, an escape where it is not. -/
def quotedBytes (bytes : List UInt8) : String :=
  let cs := bytes.map fun b => Char.ofNat b.toNat
  let quote := quoteFor cs
  let shown (c : Char) : List Char :=
    if c.toNat < 0x7F then quotedChar quote c else codeEscape c
  String.ofList ('b' :: quote :: cs.flatMap shown ++ [quote])

/-- A text in ASCII: every other character is escaped. -/
def asciiText (s : String) : String :=
  String.ofList (s.toList.flatMap fun c => if c.toNat < 0x80 then [c] else codeEscape c)

end HttpInterface.Text
