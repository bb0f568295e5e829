import HttpInterface.Number

/-!
# `HttpInterface.Number.Arithmetic`: computing with numbers

An operator on numbers of two kinds is one on the wider kind. Division rounds
correctly, a quotient without a rest is rounded down, and the rest has the sign of the
divisor. What has no value is an error.
-/

set_option autoImplicit false

namespace HttpInterface

/-- Why a computation has no result. -/
inductive NumberError where
  /-- Division by zero, in the words for the operator. -/
  | zeroDivision (message : String)
  /-- A result or an operand is too large. -/
  | tooLarge (message : String)
  /-- An operand is none that the operator takes. -/
  | badOperand (message : String)
  deriving DecidableEq, Repr

/-- The message of a number error. -/
def NumberError.message : NumberError → String
  | zeroDivision m | tooLarge m | badOperand m => m

namespace Number

/-! ### Exact doubles -/

/-- The double `n · 2^exponent`, for an `n` that a double can hold. -/
def ofScaled (n : Nat) (exponent : Int) : Float :=
  (Float.ofNat n).scaleB exponent

/-- A double without what stands behind its point; nothing is left of those that are no
numbers. -/
def truncated (x : Float) : Int :=
  match Decimal.Binary.ofFloat? x with
  | none => 0
  | some b =>
    let n :=
      if 0 ≤ b.exponent then b.significand * Decimal.twoPow b.exponent.toNat
      else b.significand / Decimal.twoPow (-b.exponent).toNat
    if b.negative then -(n : Int) else n

/-- The rest of a division of doubles, exact and with the sign of the dividend. -/
def floatRemainder (x y : Float) : Float :=
  match Decimal.Binary.ofFloat? x, Decimal.Binary.ofFloat? y with
  | some a, some b =>
    let exponent := min a.exponent b.exponent
    let n := a.significand * Decimal.twoPow (a.exponent - exponent).toNat
    let d := b.significand * Decimal.twoPow (b.exponent - exponent).toNat
    if d = 0 then 0.0 / 0.0
    else
      let rest := ofScaled (n % d) exponent
      if a.negative then -rest else rest
  | some _, none => if y.isNaN then y else x
  | none, _ => 0.0 / 0.0

/-- The double nearest to a fraction, half to the even neighbour. -/
def nearestFraction (n d : Nat) : Float :=
  if n = 0 then 0.0
  else
    -- The quotient is taken to more bits than a double has; a rest sets its last bit.
    let shift : Int := (Nat.log2 d : Int) - Nat.log2 n + 60
    let n := n * Decimal.twoPow shift.toNat
    let d := d * Decimal.twoPow (-shift).toNat
    let quotient := n / d
    let sticky := if n % d = 0 then quotient else quotient / 2 * 2 + 1
    (Float.ofNat sticky).scaleB (-shift)

/-- A double with the magnitude of one and the sign of another. -/
def withSign (magnitude sign : Float) : Float :=
  let m := magnitude.abs
  if Decimal.Binary.signBit sign then -m else m

/-! ### Operators on doubles -/

/-- Quotient rounded down and rest of doubles. -/
def floatDivMod (x y : Float) : Float × Float :=
  let rest := floatRemainder x y
  let quotient := (x - rest) / y
  let (rest, quotient) :=
    if rest == 0.0 then (withSign 0.0 y, quotient)
    else if (y < 0.0) != (rest < 0.0) then (rest + y, quotient - 1.0)
    else (rest, quotient)
  let floor :=
    if quotient == 0.0 then withSign 0.0 (x / y)
    else if quotient - quotient.floor > 0.5 then quotient.floor + 1.0
    else quotient.floor
  (floor, rest)

/-- The double is a whole odd number. -/
def isOdd (x : Float) : Bool :=
  (Decimal.whole? x).any fun i => i % 2 != 0

/-- The product of two complex numbers. -/
def complexProduct (a b : Float × Float) : Float × Float :=
  (a.1 * b.1 - a.2 * b.2, a.1 * b.2 + a.2 * b.1)

/-- The quotient of two complex numbers; none if the divisor is zero. -/
def complexQuotient? (a b : Float × Float) : Option (Float × Float) :=
  if b.1.abs ≥ b.2.abs then
    if b.1 == 0.0 then none
    else
      let ratio := b.2 / b.1
      let d := b.1 + b.2 * ratio
      some ((a.1 + a.2 * ratio) / d, (a.2 - a.1 * ratio) / d)
  else if b.2.abs ≥ b.1.abs then
    let ratio := b.1 / b.2
    let d := b.1 * ratio + b.2
    some ((a.1 * ratio + a.2) / d, (a.2 * ratio - a.1) / d)
  else some (0.0 / 0.0, 0.0 / 0.0)

/-- A complex number to a natural power, by squaring. `fuel` bounds the bits of the
exponent. -/
def complexNatPower (fuel : Nat) (base : Float × Float) (exponent : Nat)
    (product : Float × Float) : Float × Float :=
  match fuel with
  | 0 => product
  | fuel + 1 =>
    if exponent = 0 then product
    else
      let product := if exponent % 2 = 1 then complexProduct product base else product
      complexNatPower fuel (complexProduct base base) (exponent / 2) product

/-- The distance of a complex number from zero. -/
def complexAbs (a : Float × Float) : Float :=
  if a.1.isInf || a.2.isInf then 1.0 / 0.0
  else
    let large := max a.1.abs a.2.abs
    let small := min a.1.abs a.2.abs
    if large == 0.0 then 0.0
    else if small == 0.0 then large
    else (large * large + small * small).sqrt

/-- A complex number to a complex power. -/
def complexPower (a b : Float × Float) : Except NumberError (Float × Float) :=
  let isWhole := b.2 == 0.0 && b.1 == b.1.floor && b.1.abs ≤ 100.0
  match if isWhole then Decimal.whole? b.1 else none with
  | some n =>
    let power := complexNatPower 8 a n.natAbs (1.0, 0.0)
    if 0 ≤ n then .ok power
    else
      match complexQuotient? (1.0, 0.0) power with
      | some q => .ok q
      | none => .error (.zeroDivision "0.0 to a negative or complex power")
  | none =>
    if a.1 == 0.0 && a.2 == 0.0 then
      if b.2 != 0.0 || b.1 < 0.0 then
        .error (.zeroDivision "0.0 to a negative or complex power")
      else .ok (0.0, 0.0)
    else
      let size := complexAbs a
      let angle := Float.atan2 a.2 a.1
      let length := size.pow b.1
      let (length, phase) :=
        if b.2 == 0.0 then (length, angle * b.1)
        else (length / (angle * b.2).exp, angle * b.1 + b.2 * size.log)
      .ok (length * phase.cos, length * phase.sin)

/-- A double to the power of another, if the result is no complex number. -/
def realPower (x y : Float) : Except NumberError (Option Float) :=
  if y == 0.0 then .ok (some 1.0)
  else if x.isNaN then .ok (some x)
  else if y.isNaN then .ok (some (if x == 1.0 then 1.0 else y))
  else if y.isInf then
    let size := x.abs
    if size == 1.0 then .ok (some 1.0)
    else if (y > 0.0) == (size > 1.0) then .ok (some y.abs)
    else .ok (some 0.0)
  else if x.isInf then
    let size := if y > 0.0 then x.abs else 0.0
    .ok (some (if isOdd y then withSign size x else size))
  else if x == 0.0 then
    if y < 0.0 then .error (.zeroDivision "0.0 cannot be raised to a negative power")
    else .ok (some (if isOdd y then x else 0.0))
  else if x < 0.0 && y != y.floor then .ok none
  else
    let size := x.abs.pow y
    if size.isInf then .error (.tooLarge "(34, 'Numerical result out of range')")
    else .ok (some (if x < 0.0 && isOdd y then -size else size))

/-! ### Operators on whole numbers -/

/-- How many bits a result may have. -/
def maxBits : Nat := 4000000

/-- What is said of a whole number that is too large for a double. -/
def tooLargeForFloat : NumberError := .tooLarge "int too large to convert to float"

/-- An operator on the bits of whole numbers; below zero they are those that are left
of a power of two beyond both. -/
def combineBits (f : Nat → Nat → Nat) (i j : Int) : Int :=
  let half : Nat := Nat.pow 2 (Nat.log2 i.natAbs + Nat.log2 j.natAbs + 2)
  let bits (k : Int) : Nat := (Int.emod k (2 * half : Nat)).toNat
  let value := f (bits i) (bits j)
  if value < half then value else (value : Int) - (2 * half : Nat)

/-- A whole number with its bits shifted up. -/
def shiftUp (i j : Int) : Except NumberError Int :=
  if j < 0 then .error (.badOperand "negative shift count")
  else if i = 0 then .ok 0
  else if maxBits < j.toNat then .error (.tooLarge "too many digits in integer")
  else .ok (i * (Nat.pow 2 j.toNat : Nat))

/-- A whole number with its bits shifted down. -/
def shiftDown (i j : Int) : Except NumberError Int :=
  if j < 0 then .error (.badOperand "negative shift count")
  else if Nat.log2 i.natAbs < j.toNat then .ok (if i < 0 then -1 else 0)
  else .ok (Int.fdiv i (Nat.pow 2 j.toNat : Nat))

/-- The quotient of whole numbers as a double. -/
def wholeQuotient (i j : Int) : Except NumberError Float :=
  if j = 0 then .error (.zeroDivision "division by zero")
  else
    let size := nearestFraction i.natAbs j.natAbs
    if size.isInf then .error (.tooLarge "integer division result too large for a float")
    else .ok (if (i < 0) != (j < 0) then -size else size)

/-- A whole number to a natural power. -/
def wholePower (i : Int) (n : Nat) : Except NumberError Int :=
  if n = 0 then .ok 1
  else if i.natAbs ≤ 1 then .ok (if n % 2 = 0 then i * i else i)
  else if maxBits < Nat.log2 i.natAbs * n then .error (.tooLarge "too many digits in integer")
  else .ok (Int.pow i n)

/-! ### Operators on numbers -/

/-- The doubles of two numbers that are not complex. -/
def floats (a b : Number) : Except NumberError (Option (Float × Float)) :=
  match a.toFloat?, b.toFloat? with
  | some x, some y =>
    if a.exceedsFloat || b.exceedsFloat then .error tooLargeForFloat else .ok (some (x, y))
  | _, _ => .ok none

/-- The two parts of both numbers. -/
def complexes (a b : Number) : Except NumberError ((Float × Float) × (Float × Float)) :=
  if a.exceedsFloat || b.exceedsFloat then .error tooLargeForFloat else .ok (a.parts, b.parts)

/-- An operator that all kinds of numbers know. -/
def arithmetic (onWhole : Int → Int → Int) (onReal : Float → Float → Float)
    (onComplex : Float × Float → Float × Float → Float × Float) (a b : Number) :
    Except NumberError Number := do
  match a, b with
  | whole i, whole j => pure (whole (onWhole i j))
  | _, _ =>
    match ← floats a b with
    | some (x, y) => pure (real (onReal x y))
    | none =>
      let (x, y) ← complexes a b
      let z := onComplex x y
      pure (complex z.1 z.2)

/-- The sum of two numbers. -/
def add : Number → Number → Except NumberError Number :=
  arithmetic (· + ·) (· + ·) fun x y => (x.1 + y.1, x.2 + y.2)

/-- The difference of two numbers. -/
def subtract : Number → Number → Except NumberError Number :=
  arithmetic (· - ·) (· - ·) fun x y => (x.1 - y.1, x.2 - y.2)

/-- The product of two numbers. -/
def multiply : Number → Number → Except NumberError Number :=
  arithmetic (· * ·) (· * ·) complexProduct

/-- The quotient of two numbers. -/
def divide (a b : Number) : Except NumberError Number := do
  match a, b with
  | whole i, whole j => pure (real (← wholeQuotient i j))
  | _, _ =>
    match ← floats a b with
    | some (x, y) =>
      if y == 0.0 then throw (.zeroDivision "float division by zero")
      pure (real (x / y))
    | none =>
      let (x, y) ← complexes a b
      match complexQuotient? x y with
      | some z => pure (complex z.1 z.2)
      | none => throw (.zeroDivision "complex division by zero")

/-- The quotient of two numbers rounded down, and the rest; complex numbers have none.
`words` say which operator divides by zero. -/
def divMod? (words : String × String) (a b : Number) :
    Except NumberError (Option (Number × Number)) := do
  match a, b with
  | whole i, whole j =>
    if j = 0 then throw (.zeroDivision words.1)
    pure (some (whole (Int.fdiv i j), whole (Int.fmod i j)))
  | _, _ =>
    match ← floats a b with
    | some (x, y) =>
      if y == 0.0 then throw (.zeroDivision words.2)
      let (quotient, rest) := floatDivMod x y
      pure (some (real quotient, real rest))
    | none => pure none

/-- A number to the power of another. -/
def power (a b : Number) : Except NumberError Number := do
  match a, b with
  | whole i, whole (.ofNat n) => pure (whole (← wholePower i n))
  | _, _ =>
    let viaComplex : Except NumberError Number := do
      let (x, y) ← complexes a b
      let z ← complexPower x y
      if z.1.isInf || z.2.isInf then throw (.tooLarge "complex exponentiation")
      pure (complex z.1 z.2)
    match ← floats a b with
    | some (x, y) =>
      match ← realPower x y with
      | some z => pure (real z)
      | none => viaComplex
    | none => viaComplex

/-- A number with the other sign. -/
def negate : Number → Number
  | whole i => whole (-i)
  | real x => real (-x)
  | complex re im => complex (-re) (-im)

/-- The size of a number. -/
def magnitude : Number → Number
  | whole i => whole i.natAbs
  | real x => real x.abs
  | complex re im => real (complexAbs (re, im))

end Number

end HttpInterface
