import HttpInterface.Bytes

/-!
# `HttpInterface.Charset.Utf8`: UTF-8 with replacement

Writing is the standard's own table. Reading never fails: a sequence that no
character has is cut where it stops making sense, every cut-off part gives one
replacement character, and the byte that did not fit is read afresh. The reader
is a machine with two kinds of state, before a character and inside one, so one
pass over the bytes decides.
-/

set_option autoImplicit false

namespace HttpInterface.Charset.Utf8

/-- The bytes of a text. -/
def encode (cs : List Char) : Bytes :=
  cs.flatMap String.utf8EncodeChar

/-- Where the reader stands. -/
inductive State where
  /-- Before a character. -/
  | start
  /-- Inside a character: `missing` bytes are still to come, `value` is what the
  bytes so far give, and the next byte has to lie between `low` and `high`. -/
  | inside (missing value : Nat) (low high : UInt8)
  deriving DecidableEq, Repr

/-- The state that the first byte of a longer sequence leads to. The narrower
ranges keep out overlong forms, surrogates and values above U+10FFFF. -/
def lead? (b : UInt8) : Option State :=
  if 0xC2 ≤ b ∧ b ≤ 0xDF then some (.inside 1 (b.toNat % 32) 0x80 0xBF)
  else if b = 0xE0 then some (.inside 2 0 0xA0 0xBF)
  else if b = 0xED then some (.inside 2 13 0x80 0x9F)
  else if 0xE1 ≤ b ∧ b ≤ 0xEF then some (.inside 2 (b.toNat % 16) 0x80 0xBF)
  else if b = 0xF0 then some (.inside 3 0 0x90 0xBF)
  else if 0xF1 ≤ b ∧ b ≤ 0xF3 then some (.inside 3 (b.toNat % 8) 0x80 0xBF)
  else if b = 0xF4 then some (.inside 3 4 0x80 0x8F)
  else none

/-- Reads a byte before a character: what it gives at once, and the state after
it. -/
def first (b : UInt8) : List Char × State :=
  if b < 0x80 then ([Char.ofNat b.toNat], .start)
  else
    match lead? b with
    | some state => ([], state)
    | none => ([replacementChar], .start)

/-- Reads one byte. -/
def step : State → UInt8 → List Char × State
  | .start, b => first b
  | .inside missing value low high, b =>
    if low ≤ b ∧ b ≤ high then
      let value := value * 64 + b.toNat % 64
      if missing = 1 then ([Char.ofNat value], .start)
      else ([], .inside (missing - 1) value 0x80 0xBF)
    else (replacementChar :: (first b).1, (first b).2)

/-- Reads all bytes from a state on. -/
def decodeFrom : State → Bytes → List Char
  | .start, [] => []
  | .inside .., [] => [replacementChar]
  | state, b :: rest => (step state b).1 ++ decodeFrom (step state b).2 rest

/-- Reads bytes as UTF-8. -/
def decode (bytes : Bytes) : List Char :=
  decodeFrom .start bytes

/-- The bytes that mark a text as UTF-8. -/
def mark : Bytes := [0xEF, 0xBB, 0xBF]

/-- Drops one mark in front. -/
def dropMark (bytes : Bytes) : Bytes :=
  if mark.isPrefixOf bytes then bytes.drop mark.length else bytes

end HttpInterface.Charset.Utf8
