import HttpInterface.Charset.Utf8
import HttpInterface.Json
import HttpInterface.Number
import HttpInterface.Template
import HttpInterface.Text.Digit
import HttpInterface.TypeExpr.Build
import HttpInterface.Value

/-!
# `HttpInterface.CompiledMethod`: all that a call of a method needs

A compiled method holds its template and says for each argument of a call what
it is for: it is bound to a name, it is the body, or it replaces the base URL.
Names that no placeholder of the url, the queries and the headers uses are form
parameters.

An argument is found by its position. A position below zero counts from the end
of the arguments.

A message about too few arguments tells a number only if it has few enough digits. `describe`
leaves this limit out: it writes positions and types with all their digits, and `isDescribable`
says whether the type can be told.
-/

set_option autoImplicit false

namespace HttpInterface

/-- All that a call of a method needs. -/
structure CompiledMethod where
  configKey : String
  template : Template
  formParams : List String := []
  /-- The names that the argument at a position is bound to. -/
  indexToName : OrderedMap Int (List String) := .empty
  bodyIndex : Option Int := none
  bodyType : TypeExpr := .none
  urlIndex : Option Int := none
  returnType : TypeExpr := .none

/-- Why the arguments of a call do not fit the method. -/
inductive ArgumentError where
  /-- A bound position lies behind the last argument. -/
  | tooFew (key : String) (expected : Int) (given : Nat)
  /-- A bound position lies behind the last argument, and it is too large to be
  told. -/
  | tooFewToTell
  /-- No argument has this position. -/
  | outOfRange
  /-- No sequence can have this position. -/
  | noPosition
  deriving DecidableEq, Repr

/-- The message of an argument error. -/
def ArgumentError.message : ArgumentError → String
  | .tooFew key expected given =>
    s!"{key} expects at least {expected} arguments, got {given}"
  | .tooFewToTell => Text.tooManyDigitsMessage
  | .outOfRange => "tuple index out of range"
  | .noPosition => "cannot fit 'int' into an index-sized integer"

/-- A position that some sequence can have: it fits into a word. -/
def isPosition (index : Int) : Bool :=
  -(maxPosition + 1) ≤ index && index ≤ maxPosition
where
  maxPosition : Int := 9223372036854775807

/-- The argument at a position. -/
def argumentAt (args : List Value) (index : Int) : Except ArgumentError Value :=
  let position := if index < 0 then index + args.length else index
  match if position < 0 then none else args[position.toNat]? with
  | some v => .ok v
  | none => .error (if isPosition index then .outOfRange else .noPosition)

/-- The greatest of some positions. -/
def greatest? : List Int → Option Int
  | [] => none
  | i :: rest => some (rest.foldl max i)

namespace CompiledMethod

/-- The arguments by the names they are bound to. -/
def argumentsByName (m : CompiledMethod) (args : List Value) :
    Except ArgumentError (OrderedMap String Value) := do
  if let some last := greatest? m.indexToName.keys then
    if (args.length : Int) ≤ last then
      throw (if Text.isTellable (last + 1) then .tooFew m.configKey (last + 1) args.length
        else .tooFewToTell)
  m.indexToName.entries.foldlM (fun named e =>
    e.2.foldlM (fun named name => do
      pure (named.insert name (← argumentAt args e.1))) named) .empty

/-- Both methods have the same parts, entries of maps in any order and types as
`TypeExpr.same` compares them. -/
def same (a b : CompiledMethod) : Bool :=
  a.configKey == b.configKey && a.template.same b.template &&
    a.formParams == b.formParams &&
    a.indexToName.equivBy (· == ·) b.indexToName &&
    a.bodyIndex == b.bodyIndex && a.bodyType.same b.bodyType &&
    a.urlIndex == b.urlIndex && a.returnType.same b.returnType

/-- What a hash of a compiled method is taken of: all but the types. -/
structure HashKey where
  configKey : String
  template : Template.HashKey
  formParams : List String
  indexToName : List (Int × List String)
  bodyIndex : Option Int
  urlIndex : Option Int
  deriving DecidableEq, Repr

/-- The parts that a hash of the method is taken of. Of a number its own hash is taken. -/
def hashKey (m : CompiledMethod) : HashKey :=
  { configKey := m.configKey
    template := m.template.hashKey
    formParams := m.formParams
    indexToName := m.indexToName.entries.map fun e => (Number.hashWhole e.1, e.2)
    bodyIndex := m.bodyIndex.map Number.hashWhole
    urlIndex := m.urlIndex.map Number.hashWhole }

/-- A list of texts as JSON. -/
def jsonTexts (texts : List String) : Json :=
  .array (texts.map .text)

/-- A text that may be missing as JSON. -/
def jsonText? (text : Option String) : Json :=
  text.elim .null .text

/-- A number that may be missing as JSON. -/
def jsonInt? (number : Option Int) : Json :=
  number.elim .null .int

/-- A body as a text: its bytes read as UTF-8. -/
def bodyText? (m : CompiledMethod) : Option String :=
  m.template.body.map fun bytes => String.ofList (Charset.Utf8.decode bytes)

/-- The method as JSON. The type of the body is told only if there is a body
parameter. -/
def describe (m : CompiledMethod) : Json :=
  let t := m.template
  .object
    [("configKey", .text m.configKey),
     ("method", .text t.method),
     ("url", .text t.url),
     ("queries", .object (t.queries.entries.map fun e => (e.1, .array (e.2.map jsonText?)))),
     ("headers", .object (t.headers.entries.map fun e => (e.1, jsonTexts e.2))),
     ("body", jsonText? m.bodyText?),
     ("bodyTemplate", jsonText? t.bodyTemplate),
     ("formParams", jsonTexts m.formParams),
     ("indexToName",
       .object (m.indexToName.entries.map fun e => (toString e.1, jsonTexts e.2))),
     ("bodyIndex", jsonInt? m.bodyIndex),
     ("bodyType", if m.bodyIndex.isSome then .text m.bodyType.fullText else .null),
     ("urlIndex", jsonInt? m.urlIndex)]

/-- The method can be described, as the type of its body can be told. -/
def isDescribable (m : CompiledMethod) : Bool :=
  m.bodyIndex.isNone || m.bodyType.isTellable

end CompiledMethod

end HttpInterface
