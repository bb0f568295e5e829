import HttpInterface.Charset
import HttpInterface.Draft
import HttpInterface.ExpandedRequest
import HttpInterface.Percent
import HttpInterface.Template

/-!
# `HttpInterface.Expansion`: filling the gaps of a template

Every placeholder is replaced by its argument. In the url and the queries the
text of an argument is percent-encoded, in header values it stands as it is. In
the body template it is percent-encoded too, and then the whole body is decoded,
so escapes in the template become characters while arguments come out as they
went in.

A query or header value that is one placeholder and nothing else gives one value
for each element of a list. A value with a placeholder bound to none gives no
value, and a key without values is left out. Where a text has to be there, in
the url, a query key or the body, none is as bad as no argument at all.
-/

set_option autoImplicit false

namespace HttpInterface

/-- Why a template is not expanded. -/
inductive ExpansionError where
  /-- Placeholders have no argument, or none where a text has to be. -/
  | missingValues (names : List String)
  /-- A name was looked up that has no argument. -/
  | unbound (name : String)
  /-- The body has no bytes in the charset. -/
  | coding (error : CodingError)
  deriving DecidableEq, Repr

/-- The arguments of a call by their names. -/
abbrev Arguments := OrderedMap String Value

namespace Arguments

/-- The argument of a name. -/
def find (args : Arguments) (name : String) : Except ExpansionError Value :=
  match args.get? name with
  | some v => .ok v
  | none => .error (.unbound name)

/-- A name has an argument, and the argument is none. -/
def isNone (args : Arguments) (name : String) : Bool :=
  (args.get? name).any Value.isNull

end Arguments

namespace Template

/-- The names without an argument, in the order of the template, then those that
must not be none and are. -/
def missing (t : Template) (args : Arguments) : List String :=
  t.placeholders.filter (fun name => !args.contains name) ++
    t.requiredPlaceholders.filter args.isNone

/-- An argument as it stands in the url and the queries. -/
def quotedValue (v : Value) : String :=
  Percent.quote v.requestText

/-- A text with every placeholder replaced by what `render` makes of its
argument. -/
def fill (args : Arguments) (render : Value → String) (text : String) :
    Except ExpansionError String :=
  Placeholder.substituteM (fun name => render <$> args.find name) text

/-- A text with every placeholder replaced, unless one of them is none. -/
def fillUnlessNone (args : Arguments) (render : Value → String) (text : String) :
    Except ExpansionError (List String) := do
  let values ← (Placeholder.names text).mapM args.find
  if values.any Value.isNull then pure []
  else pure [← fill args render text]

/-- The values that a query or header value gives: one for each element of a list
that it stands for, else one or none. -/
def fanOut (args : Arguments) (render : Value → String) (text : String) :
    Except ExpansionError (List String) := do
  match Placeholder.only? text with
  | none => fillUnlessNone args render text
  | some name =>
    match (← args.find name).items? with
    | some items => pure ((items.filter fun v => !v.isNull).map render)
    | none => fillUnlessNone args render text

/-- The values that a query value gives: a flag stays a flag. -/
def expandQueryValue (args : Arguments) :
    Option String → Except ExpansionError (List (Option String))
  | none => .ok [none]
  | some text => do pure ((← fanOut args quotedValue text).map some)

/-- Adds the values that one key of the template gives. Keys that become the same
text share their values. -/
def expandQuery (args : Arguments)
    (built : OrderedMap String (List (Option String)))
    (entry : String × List (Option String)) :
    Except ExpansionError (OrderedMap String (List (Option String))) := do
  let key ← fill args quotedValue entry.1
  let values := (← entry.2.mapM (expandQueryValue args)).flatten
  pure (if values.isEmpty then built else built.extend key values)

/-- Adds the values that one header of the template gives. -/
def expandHeader (args : Arguments) (built : OrderedMap String (List String))
    (entry : String × List String) :
    Except ExpansionError (OrderedMap String (List String)) := do
  let values := (← entry.2.mapM (fanOut args Value.requestText)).flatten
  pure (if values.isEmpty then built else built.insert entry.1 values)

/-- A coding failure as an expansion error. -/
def orCoding {α : Type} (r : Except CodingError α) : Except ExpansionError α :=
  r.mapError .coding

/-- The body that a body template gives. -/
def expandBody (args : Arguments) (charset text : String) :
    Except ExpansionError Bytes := do
  let filled ← Placeholder.substituteM (fun name => do
    orCoding (Percent.quoteIn charset (← args.find name).requestText)) text
  let decoded ← orCoding (Percent.unquoteIn charset filled)
  orCoding (Charset.encode charset decoded.toList)

/-- Fills the gaps of a template. -/
def expand (t : Template) (args : Arguments) (charset : String) :
    Except ExpansionError ExpandedRequest := do
  let missing := t.missing args
  if !missing.isEmpty then throw (.missingValues missing)
  let url ← fill args quotedValue t.url
  let queries ← t.queries.entries.foldlM (expandQuery args) .empty
  let headers ← t.headers.entries.foldlM (expandHeader args) .empty
  match t.bodyTemplate with
  | none => pure { method := t.method, url, queries, headers, body := t.body }
  | some text =>
    let body ← expandBody args charset text
    let headers := headers.insert Header.contentLength [lengthText body]
    pure { method := t.method, url, queries, headers, body := some body }

end Template

/-- The message of an expansion error. -/
def ExpansionError.message : ExpansionError → String
  | .missingValues names =>
    "Missing values for placeholders: " ++
      ", ".intercalate (names.map fun name => "\x7b" ++ name ++ "\x7d")
  | .unbound name => Text.quoted name
  | .coding error => error.message

end HttpInterface
