import HttpInterface.Charset
import HttpInterface.Placeholder
import HttpInterface.Value

/-!
# `HttpInterface.Record.Text`: values where texts are asked for

What should be a text may be given as any value. It is then refused where it is used as a
text, and not before: a value that is empty or zero is never searched for placeholders.
-/

set_option autoImplicit false

namespace HttpInterface

namespace Value

/-- The text that a value is, where it is asked for one of the members of texts. -/
def textFor (v : Value) (member : String) : Except Misuse String :=
  match v with
  | text s => .ok s
  | v => .error (.noMember v.kindName member)

/-- The text in which a value is searched, if it is searched at all. -/
def searched (v : Value) : Except Misuse (Option String) :=
  if v.isTrue then
    match v with
    | text s => .ok (some s)
    | v => .error (.noText v.kindName)
  else .ok none

/-- The elements that a value gives one after the other. -/
def elements (v : Value) : Except Misuse (List Value) :=
  match v with
  | text s => .ok (s.toList.map fun c => .text (String.singleton c))
  | bytes bs => .ok (bs.map fun b => .int b.toNat)
  | list items | tuple items => .ok items
  | dict entries => .ok (entries.map Prod.fst)
  | v => .error (.noElements v.kindName)

/-- What is wrong with a value that is asked for as the name of a charset. -/
def noCharsetName (v : Value) (direction : CodingDirection) : CodingError :=
  .noName direction (if v.isNull then "None" else v.kindName)

/-- The bytes of a text in the charset that a value names. -/
def encode (charset : Value) (s : String) : Except CodingError Bytes :=
  match charset with
  | text name => Charset.encode name s.toList
  | v => .error (v.noCharsetName .encode)

end Value

namespace Placeholder

/-- The names in a value. -/
def namesInValue (v : Value) : Except Misuse (List String) := do
  pure (((← v.searched).map names).getD [])

/-- The names in several values, each once, in the order of their first occurrence. -/
def namesInValues (vs : List Value) : Except Misuse (List String) := do
  pure (namesIn (← vs.mapM Value.searched).reduceOption)

/-- The value stands for a text that holds a placeholder. -/
def occursInValue (v : Value) : Except Misuse Bool := do
  pure ((← v.searched).any occursIn)

/-- Puts the pieces of a text together; `position` counts the parts in front, of which
neighbouring characters are one, and `inText` says that a character stands just before. A
replacement that is none is left out. -/
def joinValues (f : String → Value) (position : Nat) (inText : Bool) :
    List Piece → Except Misuse (List Char)
  | [] => .ok []
  | .char c :: rest => do
    let others ← joinValues f (if inText then position else position + 1) true rest
    pure (c :: others)
  | .slot name :: rest =>
    match f name with
    | .null => joinValues f position false rest
    | .text s => do pure (s.toList ++ (← joinValues f (position + 1) false rest))
    | v => .error (.unfitItem position v.kindName)

/-- Puts `f name` in place of every `{name}` of a text; what it gives should be a text. -/
def substituteValues (f : String → Value) (v : Value) : Except Misuse String :=
  match v with
  | .text s => do pure (String.ofList (← joinValues f 0 false (pieces s)))
  | v => .error (.noText v.kindName)

end Placeholder

end HttpInterface
