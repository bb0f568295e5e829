import HttpInterface.OrderedMap
import HttpInterface.Record.Issue
import HttpInterface.Record.WholeNumber
import HttpInterface.Text.Case
import HttpInterface.Value

/-!
# `HttpInterface.Record`: values for the fields of a record

A record can be given as values by field names. Every value is read as the kind
that its field asks for, and some values of another kind are admitted: a whole
number may be a text, a truth value may be one of a few words. All that is wrong
is reported, not only the first thing.
-/

set_option autoImplicit false

namespace HttpInterface

namespace Record

/-! ### Reading one value -/

/-- A text. -/
def text : Value → Checked String
  | .text s => .ok s
  | _ => .problem .notText

/-- The bound of the whole numbers that a double may stand for, and a truth value
be taken from. -/
def wordBound : Int := 9223372036854775808

/-- The whole number that a text holds. -/
def integerOfText (s : String) : Checked Int :=
  match wholeNumber s with
  | .ok i => .ok i
  | .error .malformed => .problem .unreadableInteger
  | .error .tooLong => .problem .hugeInteger

/-- The whole number that a double is equal to. -/
def integerOfFloat (x : Float) : Checked Int :=
  if (Decimal.Binary.ofFloat? x).isNone then .problem .notFinite
  else
    match Decimal.whole? x with
    | none => .problem .fractionalInteger
    | some i => if i.natAbs < wordBound then .ok i else .problem .hugeInteger

/-- A whole number. -/
def integer : Value → Checked Int
  | .text s => integerOfText s
  | .float x => integerOfFloat x
  | v => v.wholeNumber?.elim (.problem .notInteger) .ok

/-- The words for false, in lower case. -/
def falseWords : List String := ["0", "off", "f", "false", "n", "no"]

/-- The words for true, in lower case. -/
def trueWords : List String := ["1", "on", "t", "true", "y", "yes"]

/-- The truth value that a word stands for. -/
def truthOfText? (s : String) : Option Bool :=
  let word := Text.lowerAscii s
  if falseWords.contains word then some false
  else if trueWords.contains word then some true
  else none

/-- The truth value that a whole number stands for. -/
def truthOfNumber? (i : Int) : Option Bool :=
  if i = 0 then some false else if i = 1 then some true else none

/-- The number of a value is one that a truth value may be taken from: a double
lies between the bounds, any other number may be the lower one too. -/
def isSmallNumber (v : Value) (i : Int) : Bool :=
  match v with
  | .float _ => -wordBound < i && i < wordBound
  | _ => -wordBound ≤ i && i < wordBound

/-- A truth value. -/
def truth : Value → Checked Bool
  | .text s => (truthOfText? s).elim (.problem .unreadableTruth) .ok
  | v =>
    match v.wholeNumber?.filter (isSmallNumber v) with
    | some i => (truthOfNumber? i).elim (.problem .unreadableTruth) .ok
    | none => .problem .notTruth

/-- Bytes; a text stands for its UTF-8 form. -/
def bytes : Value → Checked Bytes
  | .bytes bs => .ok bs
  | .text s => .ok (Charset.Utf8.encode s.toList)
  | _ => .problem .notBytes

/-- A value that may be none. -/
def optional {α : Type} (read : Value → Checked α) (v : Value) : Checked (Option α) :=
  if v.isNull then .ok none else some <$> read v

/-! ### Reading what holds other values -/

/-- The elements of a sequence, the first at position `index`. -/
def elementsFrom {α : Type} (read : Value → Checked α) (index : Nat) :
    List Value → Checked (List α)
  | [] => .ok []
  | v :: rest =>
    List.cons <$> (read v).inside (toString index) <*> elementsFrom read (index + 1) rest

/-- A list or a tuple. -/
def sequence {α : Type} (read : Value → Checked α) (v : Value) : Checked (List α) :=
  match v.items? with
  | some items => elementsFrom read 0 items
  | none => .problem .notTuple

/-- How a place names a key. A truth value counts as a number. -/
def keyName : Value → String
  | .bool b => if b then "1" else "0"
  | v => v.display

/-- The entries of a mapping. A key that cannot be read is told apart from its
value. -/
def entries {κ α : Type} (readKey : Value → Checked κ) (read : Value → Checked α) :
    List (Value × Value) → Checked (List (κ × α))
  | [] => .ok []
  | (k, v) :: rest =>
    let key := (readKey k).inside "[key]"
    let entry := (Prod.mk <$> key <*> read v).inside (keyName k)
    List.cons <$> entry <*> entries readKey read rest

/-- A mapping. -/
def mapping {κ α : Type} [DecidableEq κ] (readKey : Value → Checked κ)
    (read : Value → Checked α) : Value → Checked (OrderedMap κ α)
  | .dict es => OrderedMap.ofList <$> entries readKey read es
  | _ => .problem .notMapping

/-! ### Reading the fields of a record -/

/-- The values of the fields that are given. -/
abbrev Fields := List (String × Value)

/-- A field that has to be there. -/
def required {α : Type} (fields : Fields) (name : String) (read : Value → Checked α) :
    Checked α :=
  match fields.lookup name with
  | some v => (read v).inside name
  | none => .bad [⟨[name], .missing⟩]

/-- A field that has a value of its own if it is not given. -/
def withDefault {α : Type} (fields : Fields) (name : String) (default : α)
    (read : Value → Checked α) : Checked α :=
  match fields.lookup name with
  | some v => (read v).inside name
  | none => .ok default

end Record

end HttpInterface
