import HttpInterface.Charset
import HttpInterface.Header
import HttpInterface.PathAndQuery
import HttpInterface.Template

/-!
# `HttpInterface.Draft`: a template in the making

A draft collects the parts of a template. Paths are joined, the entries of a
query are moved into the queries, and a query key or a header name that comes
again gets one more value. A body with placeholders becomes the body template; a
body without is encoded at once, and the length of its bytes becomes the one
value of `Content-Length`. Setting a body replaces the one set before.

A `Builder` is a draft that can be handed out once: after `build` it refuses
every change.
-/

set_option autoImplicit false

namespace HttpInterface

/-- A template in the making. -/
structure Draft where
  /-- The name of the charset that a body is encoded in. -/
  charset : String
  method : Option String := none
  url : String := ""
  queries : OrderedMap String (List (Option String)) := .empty
  headers : OrderedMap String (List String) := .empty
  body : Option Bytes := none
  bodyTemplate : Option String := none
  deriving DecidableEq

/-- The header value that states a count of bytes. -/
def lengthText (bytes : Bytes) : String :=
  toString bytes.length

namespace Draft

/-- Sets the method. -/
def setMethod (method : String) (d : Draft) : Draft :=
  { d with method := some method }

/-- Adds a query entry. -/
def addQuery (key : String) (value : Option String) (d : Draft) : Draft :=
  { d with queries := d.queries.push key value }

/-- Adds a header value. -/
def addHeader (name value : String) (d : Draft) : Draft :=
  { d with headers := d.headers.push name value }

/-- Appends a path to the url, and the entries of its query to the queries. -/
def append (text : String) (d : Draft) : Draft :=
  let parsed := PathAndQuery.parse text
  parsed.entries.foldl (fun d e => d.addQuery e.1 e.2) { d with url := d.url ++ parsed.path }

/-- Sets a body that is bytes. -/
def setLiteralBody (bytes : Bytes) (d : Draft) : Draft :=
  { d with
    body := some bytes
    bodyTemplate := none
    headers := d.headers.insert Header.contentLength [lengthText bytes] }

/-- Sets a body that has placeholders. Its length is known only when it is
expanded. -/
def setBodyTemplate (text : String) (d : Draft) : Draft :=
  { d with
    body := none
    bodyTemplate := some text
    headers := d.headers.erase Header.contentLength }

/-- Sets a declared body. -/
def setBody (text : String) (d : Draft) : Except CodingError Draft :=
  if Placeholder.occursIn text then .ok (d.setBodyTemplate text)
  else (Charset.encode d.charset text.toList).map fun bytes => d.setLiteralBody bytes

/-- A body is set. -/
def hasBody (d : Draft) : Bool :=
  d.body.isSome || d.bodyTemplate.isSome

/-- The template as it is so far. -/
def template (d : Draft) : Template where
  method := d.method.getD ""
  url := d.url
  queries := d.queries
  headers := d.headers
  body := d.body
  bodyTemplate := d.bodyTemplate

end Draft

/-- A change of a draft. -/
inductive Change where
  | setMethod (method : String)
  | append (text : String)
  | addQuery (key : String) (value : Option String)
  | addHeader (name value : String)
  | setBody (text : String)
  deriving DecidableEq, Repr

/-- What a builder was asked to do. -/
inductive Operation where
  | setMethod
  | append
  | addQuery
  | addHeader
  | setBody
  | build
  deriving DecidableEq, Repr

/-- The operation that makes a change. -/
def Change.operation : Change → Operation
  | .setMethod _ => .setMethod
  | .append _ => .append
  | .addQuery _ _ => .addQuery
  | .addHeader _ _ => .addHeader
  | .setBody _ => .setBody

/-- The draft after a change. -/
def Draft.change (d : Draft) : Change → Except CodingError Draft
  | .setMethod method => .ok (d.setMethod method)
  | .append text => .ok (d.append text)
  | .addQuery key value => .ok (d.addQuery key value)
  | .addHeader name value => .ok (d.addHeader name value)
  | .setBody text => d.setBody text

/-- Why a builder refuses. -/
inductive BuilderError where
  /-- The template was handed out before. -/
  | consumed (operation : Operation)
  /-- The body has no bytes in the charset. -/
  | coding (error : CodingError)
  /-- No method was set. -/
  | noMethod
  deriving DecidableEq, Repr

/-- A draft that can be handed out once. -/
structure Builder where
  draft : Draft
  built : Bool := false
  deriving DecidableEq

namespace Builder

/-- A builder without any part. -/
def start (charset : String) : Builder :=
  { draft := { charset } }

/-- The builder after a change. -/
def change (b : Builder) (c : Change) : Except BuilderError Builder :=
  if b.built then .error (.consumed c.operation)
  else
    match b.draft.change c with
    | .ok draft => .ok { b with draft }
    | .error e => .error (.coding e)

/-- A copy of the template as it is so far. -/
def snapshot (b : Builder) : Template :=
  b.draft.template

/-- Hands out the template; a method must be set. -/
def build (b : Builder) : Except BuilderError (Template × Builder) :=
  if b.built then .error (.consumed .build)
  else if (b.draft.method.getD "").isEmpty then .error .noMethod
  else .ok (b.snapshot, { b with built := true })

end Builder

/-- How a message calls an operation. -/
def Operation.description : Operation → String
  | .setMethod => "set the method"
  | .append => "append to the url"
  | .addQuery => "add a query"
  | .addHeader => "add a header"
  | .setBody => "set the body"
  | .build => "build"

/-- The message of a builder error. -/
def BuilderError.message : BuilderError → String
  | .consumed operation =>
    s!"Cannot {operation.description}: the template builder was already built"
  | .coding error => error.message
  | .noMethod => "A request template needs an HTTP method"

end HttpInterface
