import HttpInterface.Bytes
import HttpInterface.Decimal.Read
import HttpInterface.Number
import HttpInterface.Text.Quoted

/-!
# `HttpInterface.Constant`: values that are written as one literal

Constants stand in literal types and in expressions. A number with a point is
kept as its shortest text, so that constants can be compared.
-/

set_option autoImplicit false

namespace HttpInterface

/-- A value that is written as one literal. -/
inductive Constant where
  | null
  | bool (b : Bool)
  | int (i : Int)
  /-- A number with a point, by its text. -/
  | float (text : String)
  /-- A complex number, by the texts of its parts. -/
  | complex (re im : String)
  | text (s : String)
  | bytes (bs : Bytes)
  | ellipsis
  deriving DecidableEq, Repr

namespace Constant

/-- The name of the kind of a constant. -/
def kindName : Constant → String
  | .null => "NoneType"
  | .bool _ => "bool"
  | .int _ => "int"
  | .float _ => "float"
  | .complex _ _ => "complex"
  | .text _ => "str"
  | .bytes _ => "bytes"
  | .ellipsis => "ellipsis"

/-- The double of a text; those that are none do not occur. -/
def floatOf (text : String) : Float :=
  (Decimal.readFloat? text).getD 0.0

/-- The number that a constant is; truth values are the numbers one and zero. -/
def number? : Constant → Option Number
  | .bool b => some (.whole (if b then 1 else 0))
  | .int i => some (.whole i)
  | .float t => some (.real (floatOf t))
  | .complex re im => some (.complex (floatOf re) (floatOf im))
  | _ => none

/-- A number as a constant. -/
def ofNumber : Number → Constant
  | .whole i => .int i
  | .real x => .float (Decimal.floatText x)
  | .complex re im => .complex (Decimal.floatText re) (Decimal.floatText im)

/-- A constant as a literal. -/
def shown : Constant → String
  | .null => "None"
  | .bool b => if b then "True" else "False"
  | .int i => toString i
  | .float t => t
  | .complex re im => Number.complexText re im
  | .text s => Text.quoted s
  | .bytes bs => Text.quotedBytes bs
  | .ellipsis => "Ellipsis"

/-- The text of the constant can be told: a whole number has few enough digits. -/
def isTellable : Constant → Bool
  | .int i => Text.isTellable i
  | _ => true

/-- The constant counts as true in a condition. -/
def isTrue (c : Constant) : Bool :=
  match c, c.number? with
  | _, some n => n.isTrue
  | .null, _ => false
  | .text s, _ => !s.isEmpty
  | .bytes bs, _ => !bs.isEmpty
  | _, _ => true

/-- The whole number that a constant is equal to, unless it has a point. -/
def wholeNumber? : Constant → Option Int
  | .bool b => some (if b then 1 else 0)
  | .int i => some i
  | _ => none

/-- Both constants are equal: numbers of all kinds by their value. -/
def same (a b : Constant) : Bool :=
  match a.number?, b.number? with
  | some m, some n => m.equal n
  | _, _ => a == b

end Constant

end HttpInterface
