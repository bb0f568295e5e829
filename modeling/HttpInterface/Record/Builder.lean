import HttpInterface.Draft
import HttpInterface.Record.OfFields
import HttpInterface.Record.Text
import HttpInterface.Signature

/-!
# `HttpInterface.Record.Builder`: a builder that is given values

A `ValueBuilder` does with values what `Builder` does with texts. It takes what it is given,
and it uses it as a text only where it has to: a path is cut, a body is searched and encoded.
Keys have to be fit for a dictionary. Everything else is an issue of every template that is
taken from then on, for the parts of a template are texts.

A step calls the builder by the name of one of its members, which need not be one that
changes it.
-/

set_option autoImplicit false

namespace HttpInterface

/-- The two kinds of entries. -/
inductive EntryKind where
  | query
  | header
  deriving DecidableEq, Repr

/-- Entries as a builder collects them: the values of every key. -/
abbrev ValueEntries := List (Value × List Value)

namespace ValueEntries

/-- The values of a key. -/
def valuesOf (entries : ValueEntries) (key : Value) : List Value :=
  ((entries.find? fun e => e.1.sameKey key).map Prod.snd).getD []

/-- The entries with the values of a key set. -/
def setValues (key : Value) (values : List Value) : ValueEntries → ValueEntries
  | [] => [(key, values)]
  | e :: rest =>
    if e.1.sameKey key then (e.1, values) :: rest else e :: setValues key values rest

/-- The entries without a key. -/
def without (entries : ValueEntries) (key : Value) : ValueEntries :=
  entries.filter fun e => !e.1.sameKey key

/-- The entries as a dictionary. -/
def toValue (entries : ValueEntries) : Value :=
  .dict (entries.map fun e => (e.1, .tuple e.2))

end ValueEntries

/-- A builder that is given values. -/
structure ValueBuilder where
  charset : Value
  method : Value := .null
  url : String := ""
  queries : ValueEntries := []
  headers : ValueEntries := []
  body : Option Bytes := none
  bodyTemplate : Option String := none
  built : Bool := false

/-- Why a builder that is given values refuses. -/
inductive ValueBuilderError where
  /-- The template was handed out before what the builder was asked to do. -/
  | consumed (operation : Value)
  | coding (error : CodingError)
  /-- No method was set. -/
  | noMethod
  /-- The template has issues. -/
  | issues (issues : List Issue)
  | misuse (error : Misuse)
  /-- A member takes other arguments than it is called with. -/
  | call (member : String) (error : BindingError)
  /-- A member that is called is a value of this kind. -/
  | notCallable (kind : String)
  /-- A member that every value has takes one argument. -/
  | needsOne

/-- What a step gives. -/
inductive StepResult where
  /-- The builder itself. -/
  | itself
  /-- Something else. -/
  | other
  | truth (b : Bool)
  | template (t : Template)

namespace ValueBuilder

/-- The name of the class of builders. -/
def className : String := "RequestTemplateBuilder"

/-- A builder without any part. -/
def start (charset : Value) : ValueBuilder := { charset }

/-- A body is set. -/
def hasBody (b : ValueBuilder) : Bool :=
  b.body.isSome || b.bodyTemplate.isSome

/-- Checks that the template was not handed out before an operation. -/
def checkOpen (b : ValueBuilder) (operation : Value) : Except ValueBuilderError Unit :=
  if b.built then .error (.consumed operation) else .ok ()

/-- Checks that the template was not handed out before one of the usual operations. -/
def checkOpenFor (b : ValueBuilder) (operation : Operation) : Except ValueBuilderError Unit :=
  b.checkOpen (.text operation.description)

/-! ### Changes -/

/-- The entries after one more is added. -/
def addTo (entries : ValueEntries) (key value : Value) :
    Except ValueBuilderError ValueEntries :=
  match key.nonKey? with
  | some part => .error (.misuse (.unfitKey part.kindName))
  | none => .ok (entries.setValues key (entries.valuesOf key ++ [value]))

/-- The builder after an entry is added. -/
def addEntry (b : ValueBuilder) (kind : EntryKind) (key value : Value) :
    Except ValueBuilderError ValueBuilder := do
  match kind with
  | .query => do
    b.checkOpenFor .addQuery
    pure { b with queries := ← addTo b.queries key value }
  | .header => do
    b.checkOpenFor .addHeader
    pure { b with headers := ← addTo b.headers key value }

/-- The builder with a method. -/
def setMethod (b : ValueBuilder) (method : Value) : Except ValueBuilderError ValueBuilder := do
  b.checkOpenFor .setMethod
  pure { b with method }

/-- The builder after a path and a query are appended. -/
def append (b : ValueBuilder) (text : Value) : Except ValueBuilderError ValueBuilder := do
  b.checkOpenFor .append
  let parsed := PathAndQuery.parse (← (text.textFor "partition").mapError .misuse)
  let entryValue (value : Option String) : Value := (value.map Value.text).getD .null
  parsed.entries.foldlM (fun b e => b.addEntry .query (.text e.1) (entryValue e.2))
    { b with url := b.url ++ parsed.path }

/-- The key of the length of a body. -/
def lengthKey : Value := .text Header.contentLength

/-- The builder with a body. -/
def setBody (b : ValueBuilder) (body : Value) : Except ValueBuilderError ValueBuilder := do
  b.checkOpenFor .setBody
  match ← body.searched.mapError .misuse with
  | some text =>
    if Placeholder.occursIn text then
      pure { b with
        body := none
        bodyTemplate := some text
        headers := b.headers.without lengthKey }
    else literal text
  | none => literal (← (body.textFor "encode").mapError .misuse)
where
  /-- The builder with a body that is encoded at once. -/
  literal (text : String) : Except ValueBuilderError ValueBuilder := do
    let bytes ← (b.charset.encode text).mapError .coding
    pure { b with
      body := some bytes
      bodyTemplate := none
      headers := b.headers.setValues lengthKey [.text (lengthText bytes)] }

/-! ### Templates -/

/-- A copy of the template as it is so far. -/
def snapshot (b : ValueBuilder) : Except ValueBuilderError Template :=
  let fields : Record.Fields :=
    [("method", if b.method.isTrue then b.method else .text ""), ("url", .text b.url),
     ("queries", b.queries.toValue), ("headers", b.headers.toValue),
     ("body", (b.body.map Value.bytes).getD .null),
     ("body_template", (b.bodyTemplate.map Value.text).getD .null)]
  (Template.ofFields fields).toExcept.mapError .issues

/-- Hands out the template. A builder whose template has issues is not used up. -/
def build (b : ValueBuilder) : Except ValueBuilderError (Template × ValueBuilder) := do
  b.checkOpenFor .build
  if !b.method.isTrue then throw .noMethod
  pure (← b.snapshot, { b with built := true })

/-! ### Steps -/

/-- The names of the parameters of a member, if it is a function of builders; the last
`optional` of them need not be given. -/
def parameters? : String → Option (List String × Nat)
  | "method" => some (["method"], 0)
  | "append" => some (["path_and_query"], 0)
  | "add_query" => some (["key", "value"], 0)
  | "add_header" => some (["name", "value"], 0)
  | "body" => some (["body"], 0)
  | "snapshot" | "build" => some ([], 0)
  | "_check_open" => some (["operation"], 0)
  | "__init__" | "__class__" => some (["charset"], 1)
  | _ => none

/-- The members that every value has and that take nothing. -/
def plainMembers : List String :=
  ["__repr__", "__str__", "__hash__", "__dir__", "__sizeof__", "__reduce__", "__getstate__",
   "__init_subclass__", "__subclasshook__"]

/-- The members that every value has and that take another one. -/
def comparingMembers : List String :=
  ["__eq__", "__ne__", "__lt__", "__le__", "__gt__", "__ge__"]

/-- The kind of a member that is a value. -/
def valueMember? (b : ValueBuilder) : String → Option String
  | "_charset" => some b.charset.kindName
  | "_method" => some b.method.kindName
  | "_url" | "__doc__" | "__module__" => some "str"
  | "_queries" | "_headers" | "__dict__" => some "dict"
  | "_body" => some (if b.body.isSome then "bytes" else "NoneType")
  | "_body_template" => some (if b.bodyTemplate.isSome then "str" else "NoneType")
  | "_built" => some "bool"
  | "__weakref__" => some "NoneType"
  | _ => none

/-- Checks the arguments of a function of builders. -/
def checkArguments (name : String) (names : List String) (optional : Nat)
    (args : List Value) : Except ValueBuilderError Unit :=
  let needed := names.length - optional
  let others := names.zipIdx.map fun (n, i) =>
    ({ name := n, isOptional := needed ≤ i } : SignatureParameter)
  let function := if name = "__class__" then "__init__" else name
  match Signature.bind (({ name := "self" } : SignatureParameter) :: others)
      { values := Value.null :: args } with
  | .ok _ => .ok ()
  | .error e => .error (.call s!"{className}.{function}" e)

/-- A call of a function of builders with arguments that fit. -/
def callWith (b : ValueBuilder) (name : String) (args : List Value) :
    Except ValueBuilderError (ValueBuilder × StepResult) := do
  let first := args.headD .null
  let second := (args.drop 1).headD .null
  match name with
  | "method" => pure (← b.setMethod first, .itself)
  | "append" => pure (← b.append first, .itself)
  | "add_query" => pure (← b.addEntry .query first second, .itself)
  | "add_header" => pure (← b.addEntry .header first second, .itself)
  | "body" => pure (← b.setBody first, .itself)
  | "snapshot" => pure (b, .template (← b.snapshot))
  | "build" => do
    let (t, after) ← b.build
    pure (after, .template t)
  | "_check_open" => do
    b.checkOpen first
    pure (b, .other)
  | "__init__" => pure (start (args.headD (.text "utf-8")), .other)
  | _ => pure (b, .other)

/-- A step: a call of a member of the builder. -/
def step (b : ValueBuilder) (name : String) (args : List Value) :
    Except ValueBuilderError (ValueBuilder × StepResult) := do
  if name = "has_body" then return (b, .truth b.hasBody)
  match parameters? name, b.valueMember? name with
  | some (names, optional), _ => do
    checkArguments name names optional args
    b.callWith name args
  | none, some kind => throw (.notCallable kind)
  | none, none =>
    if plainMembers.contains name then pure (b, .other)
    else if comparingMembers.contains name then
      if args.isEmpty then throw .needsOne
      pure (b, .other)
    else throw (.misuse (.noMember className name))

end ValueBuilder

/-- The message of a refusal. -/
def ValueBuilderError.message : ValueBuilderError → String
  | .consumed operation =>
    s!"Cannot {operation.display}: the template builder was already built"
  | .coding e => e.message
  | .noMethod => BuilderError.noMethod.message
  | .issues found => Issue.messages found
  | .misuse e => e.message
  | .call member e => e.message member
  | .notCallable kind => s!"'{kind}' object is not callable"
  | .needsOne => "expected 1 argument, got 0"

end HttpInterface
