import HttpInterface.Decimal.Shortest
import HttpInterface.Url

/-!
# `HttpInterface.Value`: the arguments of a call

A call passes values of any kind. A value has three texts:

* `requestText`, which goes into a request: a truth value is `true` or `false`, a list
  is its elements with commas between them, absent elements left out;
* `display`, which shows a text as it is and anything else as a literal;
* `literal`, which puts texts between quotes and lists between brackets.

All three write a whole number with all its digits. That a runtime refuses to
write a number with more than `Text.maxDigits` of them is left out here. It is
kept in formats (`Format.Number`), in the texts of types and in the complaint
about a missing argument.
-/

set_option autoImplicit false

namespace HttpInterface

/-- Why a value cannot be used as it is. -/
inductive Misuse where
  /-- A value of this kind cannot be a key. -/
  | unfitKey (kind : String)
  /-- A value of this kind has no such member. -/
  | noMember (kind member : String)
  /-- A value of this kind is no text that could be searched. -/
  | noText (kind : String)
  /-- A value of this kind has no elements. -/
  | noElements (kind : String)
  /-- A value of this kind stands among texts that are put together. -/
  | unfitItem (position : Nat) (kind : String)
  deriving DecidableEq, Repr

/-- The message of a misuse. -/
def Misuse.message : Misuse → String
  | unfitKey kind => s!"unhashable type: '{kind}'"
  | noMember kind member => s!"'{kind}' object has no attribute '{member}'"
  | noText kind => s!"expected string or bytes-like object, got '{kind}'"
  | noElements kind => s!"'{kind}' object is not iterable"
  | unfitItem position kind => s!"sequence item {position}: expected str instance, {kind} found"

/-- A value that a call may pass. -/
inductive Value where
  /-- No value. -/
  | null
  | bool (b : Bool)
  | int (i : Int)
  | float (x : Float)
  | text (s : String)
  | bytes (bs : Bytes)
  | list (items : List Value)
  | tuple (items : List Value)
  | dict (entries : List (Value × Value))
  | url (u : Url)

namespace Value

instance : Inhabited Value := ⟨.null⟩

/-- The name of the kind of a value. -/
def kindName : Value → String
  | null => "NoneType"
  | bool _ => "bool"
  | int _ => "int"
  | float _ => "float"
  | text _ => "str"
  | bytes _ => "bytes"
  | list _ => "list"
  | tuple _ => "tuple"
  | dict _ => "dict"
  | url _ => "URL"

/-- A value counts as true in a condition: it is no zero, and not empty. -/
def isTrue : Value → Bool
  | null => false
  | bool b => b
  | int i => i != 0
  | float x => x != 0.0
  | text s => !s.isEmpty
  | bytes bs => !bs.isEmpty
  | list items | tuple items => !items.isEmpty
  | dict entries => !entries.isEmpty
  | url _ => true

/-- No value is passed. -/
def isNull : Value → Bool
  | null => true
  | _ => false

/-- The elements, if the value is a list or a tuple. -/
def items? : Value → Option (List Value)
  | list items => some items
  | tuple items => some items
  | _ => none

/-- Texts with commas and blanks between them. -/
def commaSeparated (texts : List String) : String :=
  ", ".intercalate texts

/-- The elements of a tuple between parentheses: one element alone has a comma
behind it. -/
def tupleText : List String → String
  | [one] => "(" ++ one ++ ",)"
  | texts => "(" ++ commaSeparated texts ++ ")"

mutual

/-- A value as a literal. -/
def literal : Value → String
  | null => "None"
  | bool b => if b then "True" else "False"
  | int i => toString i
  | float x => Decimal.floatText x
  | text s => Text.quoted s
  | bytes bs => Text.quotedBytes bs
  | list items => "[" ++ commaSeparated (literals items) ++ "]"
  | tuple items => tupleText (literals items)
  | dict entries => "\x7b" ++ commaSeparated (entryLiterals entries) ++ "\x7d"
  | url u => "URL(" ++ Text.quoted u.maskedText ++ ")"

/-- Values as literals. -/
def literals : List Value → List String
  | [] => []
  | v :: rest => literal v :: literals rest

/-- Entries as literals, with a colon between key and value. -/
def entryLiterals : List (Value × Value) → List String
  | [] => []
  | (k, v) :: rest => (literal k ++ ": " ++ literal v) :: entryLiterals rest

end

/-- A value as a message shows it: a text as it is. -/
def display : Value → String
  | text s => s
  | url u => u.text
  | v => v.literal

mutual

/-- A value as a request carries it. -/
def requestText : Value → String
  | bool b => if b then "true" else "false"
  | list items => ",".intercalate (requestTexts items)
  | tuple items => ",".intercalate (requestTexts items)
  | v => v.display

/-- The elements of a list as a request carries them, without the absent
ones. -/
def requestTexts : List Value → List String
  | [] => []
  | v :: rest => if v.isNull then requestTexts rest else requestText v :: requestTexts rest

end

/-- The whole number that a value is equal to. -/
def wholeNumber? : Value → Option Int
  | bool b => some (if b then 1 else 0)
  | int i => some i
  | float x => Decimal.whole? x
  | _ => none

/-- Two values that are no tuples are the same key: numbers by their value, where
what is no number at all equals nothing, and a URL as its text. -/
def sameSingleKey : Value → Value → Bool
  | null, null => true
  | text s, text t => s == t
  | text s, url u => s == u.text
  | url u, text s => u.text == s
  | url u, url w => u.text == w.text
  | bytes bs, bytes cs => bs == cs
  | float x, float y => x == y
  | a, b =>
    match a.wholeNumber?, b.wholeNumber? with
    | some i, some j => i == j
    | _, _ => false

mutual

/-- Both values are the same key; tuples are compared element by element. -/
def sameKey : Value → Value → Bool
  | tuple vs, tuple ws => sameKeys vs ws
  | a, b => sameSingleKey a b

/-- Values at the same places are the same keys. -/
def sameKeys : List Value → List Value → Bool
  | [], [] => true
  | v :: vs, w :: ws => sameKey v w && sameKeys vs ws
  | _, _ => false

end

mutual

/-- The value itself or its first element that cannot be a key: a list or a
dictionary. -/
def nonKey? : Value → Option Value
  | list vs => some (list vs)
  | dict es => some (dict es)
  | tuple vs => nonKeyIn? vs
  | _ => none

/-- The first of the values that cannot be a key. -/
def nonKeyIn? : List Value → Option Value
  | [] => none
  | v :: vs => (nonKey? v).or (nonKeyIn? vs)

end

/-- Sets a key among entries: in place if it is there, else at the end. -/
def setKey (k v : Value) : List (Value × Value) → List (Value × Value)
  | [] => [(k, v)]
  | e :: rest => if e.1.sameKey k then (e.1, v) :: rest else e :: setKey k v rest

/-- The entries after one more is set. -/
def setEntry (built : List (Value × Value)) (e : Value × Value) :
    Except Misuse (List (Value × Value)) :=
  match e.1.nonKey? with
  | some part => .error (.unfitKey part.kindName)
  | none => .ok (setKey e.1 e.2 built)

/-- The dictionary that entries build when they are set one after the other. -/
def dictOf (entries : List (Value × Value)) : Except Misuse Value :=
  dict <$> entries.foldlM setEntry []

end Value

end HttpInterface
