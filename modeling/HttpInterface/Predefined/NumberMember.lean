import HttpInterface.Number.Read
import HttpInterface.Number.Rounding
import HttpInterface.Object.Arithmetic
import HttpInterface.Object.Calling
import HttpInterface.Object.Demand
import HttpInterface.Object.Formatting

/-!
# `HttpInterface.Predefined.NumberMember`: what the members of numbers do

A whole number can be taken as bits and as bytes, and a double as a fraction. All numbers
know their conjugate.
-/

set_option autoImplicit false

namespace HttpInterface.Predefined

open Evaluation

/-- How a member of numbers takes its arguments. -/
def numberCalling : String → Calling
  | "to_bytes" => .named 0 2 ["length", "byteorder", "signed"]
  | "from_bytes" => .named 1 2 ["bytes", "byteorder", "signed"]
  | "__round__" => .positional 0 1
  | "__format__" | "fromhex" | "__getformat__" => .one
  | _ => .nothing

/-- Bytes come from the most significant one on, for a function of some name. -/
def isBigEndian (name : String) (o : Option Object) : Evaluation Bool := do
  match o with
  | none => pure true
  | some o =>
    let order ← demandTextAt s!"{name}() argument 'byteorder'" o
    if order = "big" then pure true
    else if order = "little" then pure false
    else valueError "byteorder must be either 'little' or 'big'"

/-- The bytes of a natural number, least significant one first. -/
def littleBytes (length n : Nat) : Bytes :=
  (List.range length).map fun i => UInt8.ofNat (n / Nat.pow 256 i % 256)

/-- The number of bytes, most significant one first. -/
def numberOfBytes (bs : Bytes) : Nat :=
  bs.foldl (fun n b => 256 * n + b.toNat) 0

/-- A whole number as bytes. -/
def wholeToBytes (i : Int) (args : List (Option Object)) : Evaluation Object := do
  let length ← countOr 1 (argument? args 0)
  let isBig ← isBigEndian "to_bytes" (argument? args 1)
  let isSigned ← isTrue (argument args 2)
  if length < 0 then valueError "length argument must be non-negative"
  if i < 0 && !isSigned then
    raise "OverflowError" "can't convert negative int to unsigned"
  if maxElements < length.toNat then raise "MemoryError" ""
  let full := Nat.pow 2 (8 * length.toNat)
  let fits :=
    if isSigned then -(full : Int) ≤ 2 * i && 2 * i < full || (length = 0 && i = 0) else i < full
  if !fits then raise "OverflowError" "int too big to convert"
  let bytes := littleBytes length.toNat (Int.emod i full).toNat
  pure (.bytes (if isBig then bytes.reverse else bytes))

/-- The whole number of bytes. -/
def wholeOfBytes (engine : Engine) (args : List (Option Object)) : Evaluation Object := do
  let given := argument args 0
  let isBig ← isBigEndian "from_bytes" (argument? args 1)
  let bytes ← match ← bytesOf? given with
    | some bytes => pure bytes
    | none =>
      let refused := given.text?.isSome || given.number?.isSome || given.isNone
      let items? ← if refused then pure none else elements? engine given
      let items ← match items? with
        | some items => pure items
        | none => typeError s!"cannot convert '{← kindName given}' object to bytes"
      items.mapM fun o => do
        let i ← demandInt o
        if 0 ≤ i && i < 256 then pure (UInt8.ofNat i.toNat)
        else valueError "bytes must be in range(0, 256)"
  let isSigned ← isTrue (argument args 2)
  let n := numberOfBytes (if isBig then bytes else bytes.reverse)
  let full := Nat.pow 2 (8 * bytes.length)
  pure (.int (if isSigned && full ≤ 2 * n then (n : Int) - full else n))

/-- How many bits of a natural number are set. `fuel` bounds the bits. -/
def countBits (fuel n : Nat) : Nat :=
  match fuel with
  | 0 => 0
  | fuel + 1 => n % 2 + countBits fuel (n / 2)

/-- The double of a text in hexadecimal digits. -/
def realOfHex (o : Object) : Evaluation Object := do
  match o.text? with
  | none => typeError "bad argument type for built-in operation"
  | some s =>
    match Number.readHexFloat? s.toList with
    | none => valueError "invalid hexadecimal floating-point string"
    | some x =>
      if x.isInf && s.toList.any Char.isDigit then
        raise "OverflowError" "hexadecimal value too large to represent as a float"
      pure (.float x)

/-- How doubles are kept. -/
def formatOfReals (o : Object) : Evaluation Object := do
  let kind ← demandTextAt "__getformat__() argument" o
  if kind = "double" || kind = "float" then pure (.text "IEEE, little-endian")
  else valueError "__getformat__() argument 1 must be 'double' or 'float'"

/-- What a member of whole numbers makes of one. -/
def callWhole (i : Int) (name : String) (args : List (Option Object)) : Evaluation Object := do
  match name with
  | "conjugate" | "__trunc__" | "__floor__" | "__ceil__" | "__int__" | "__index__" => pure (.int i)
  | "bit_length" => pure (.int (if i = 0 then 0 else Nat.log2 i.natAbs + 1))
  | "bit_count" => pure (.int (countBits (Nat.log2 i.natAbs + 1) i.natAbs))
  | "as_integer_ratio" => pure (.tuple [.int i, .int 1])
  | "to_bytes" => wholeToBytes i args
  | "__round__" => do
    match argument? args 0 with
    | none => pure (.int i)
    | some places => pure (.int (Number.roundedWhole (← demandInt places) i))
  | "__getnewargs__" => pure (.tuple [.int i])
  | _ => throw (.noMember "int" name)

/-- What a member of doubles makes of one. -/
def callReal (x : Float) (name : String) (args : List (Option Object)) : Evaluation Object := do
  let whole (r : Except NumberError Int) : Evaluation Object := .int <$> ofNumberResult r
  match name with
  | "conjugate" => pure (.float x)
  | "is_integer" => pure (.bool (Decimal.whole? x).isSome)
  | "as_integer_ratio" => do
    let (n, d) ← ofNumberResult (Number.ratioOf x)
    pure (.tuple [.int n, .int d])
  | "hex" => pure (.text (Number.hexFloat x))
  | "__trunc__" | "__int__" => whole (Number.wholePart x)
  | "__floor__" => whole (Number.floorOf x)
  | "__ceil__" => whole (Number.ceilingOf x)
  | "__round__" =>
    let places := argument args 0
    if places.isNone then whole (Number.nearestWhole x)
    else .float <$> ofNumberResult (Number.roundedTo (← demandInt places) x)
  | "__getnewargs__" => pure (.tuple [.float x])
  | _ => throw (.noMember "float" name)

/-- What a member of numbers makes of one. -/
def callNumber (n : Number) (name : String) (args : List (Option Object)) : Evaluation Object := do
  if name = "__format__" then
    let layout ← demandTextAt "__format__() argument" (argument args 0)
    return .text (← layObject layout (.number n))
  match n with
  | .whole i => callWhole i name args
  | .real x => callReal x name args
  | .complex re im =>
    match name with
    | "conjugate" => pure (.number (.complex re (-im)))
    | "__complex__" => pure (.number n)
    | "__getnewargs__" => pure (.tuple [.float re, .float im])
    | _ => throw (.noMember "complex" name)

end HttpInterface.Predefined
