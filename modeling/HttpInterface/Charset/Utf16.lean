import HttpInterface.Bytes

/-!
# `HttpInterface.Charset.Utf16`: UTF-16 in both byte orders

A character above U+FFFF is written as two surrogates. Reading never fails: a
surrogate without its partner gives one replacement character, and so does a
tail too short to hold what it starts.
-/

set_option autoImplicit false

namespace HttpInterface.Charset.Utf16

/-- Which byte of a unit comes first. -/
inductive Order where
  | littleEndian
  | bigEndian
  deriving DecidableEq, Repr

/-- The two bytes of a unit. -/
def unitBytes (order : Order) (unit : Nat) : Bytes :=
  let high := UInt8.ofNat (unit / 256)
  let low := UInt8.ofNat (unit % 256)
  match order with
  | .littleEndian => [low, high]
  | .bigEndian => [high, low]

/-- The unit that two bytes hold. -/
def unitOf (order : Order) (a b : UInt8) : Nat :=
  match order with
  | .littleEndian => b.toNat * 256 + a.toNat
  | .bigEndian => a.toNat * 256 + b.toNat

/-- The units of a character: itself, or two surrogates. -/
def units (c : Char) : List Nat :=
  if c.toNat < 0x10000 then [c.toNat]
  else
    let rest := c.toNat - 0x10000
    [0xD800 + rest / 1024, 0xDC00 + rest % 1024]

/-- The bytes of a text. -/
def encode (order : Order) (cs : List Char) : Bytes :=
  cs.flatMap fun c => (units c).flatMap (unitBytes order)

/-- The first unit of a pair. -/
def isHighSurrogate (unit : Nat) : Bool :=
  0xD800 ≤ unit && unit < 0xDC00

/-- The second unit of a pair. -/
def isLowSurrogate (unit : Nat) : Bool :=
  0xDC00 ≤ unit && unit < 0xE000

/-- The character of a pair. -/
def pairChar (high low : Nat) : Char :=
  Char.ofNat (0x10000 + (high - 0xD800) * 1024 + (low - 0xDC00))

/-- Reads bytes in a byte order. -/
def decode (order : Order) : Bytes → List Char
  | [] => []
  | [_] => [replacementChar]
  | [a, b] =>
    let unit := unitOf order a b
    if isHighSurrogate unit || isLowSurrogate unit then [replacementChar]
    else [Char.ofNat unit]
  | [a, b, _] =>
    let unit := unitOf order a b
    if isHighSurrogate unit then [replacementChar]
    else if isLowSurrogate unit then [replacementChar, replacementChar]
    else [Char.ofNat unit, replacementChar]
  | a :: b :: c :: d :: rest =>
    let unit := unitOf order a b
    let next := unitOf order c d
    if isHighSurrogate unit then
      if isLowSurrogate next then pairChar unit next :: decode order rest
      else replacementChar :: decode order (c :: d :: rest)
    else if isLowSurrogate unit then replacementChar :: decode order (c :: d :: rest)
    else Char.ofNat unit :: decode order (c :: d :: rest)

/-- The bytes that mark a text as little-endian UTF-16. -/
def mark : Bytes := [0xFF, 0xFE]

/-- Reads bytes in the order that their mark states, little-endian without
one. -/
def decodeMarked : Bytes → List Char
  | 0xFF :: 0xFE :: rest => decode .littleEndian rest
  | 0xFE :: 0xFF :: rest => decode .bigEndian rest
  | bytes => decode .littleEndian bytes

end HttpInterface.Charset.Utf16
