import HttpInterface.CompiledMethod
import HttpInterface.Expansion
import HttpInterface.WireRequest

/-!
# `HttpInterface.Call`: from the arguments of a call to a request

The arguments are bound to their names, the template is expanded, and the base
URL is the one given unless an argument replaces it. If the request has no body
yet and a parameter is the body, its argument is encoded: bytes as they are, a
text in the charset, anything else by the encoder. Then the request is made
ready to be sent. The first of these steps that fails decides.
-/

set_option autoImplicit false

namespace HttpInterface

/-- Turns a value of a declared type into bytes. -/
abbrev BodyEncoder := Value → TypeExpr → Bytes

/-- Why a call gives no request. -/
inductive CallError where
  | argument (error : ArgumentError)
  | expansion (error : ExpansionError)
  /-- There is no base URL for the method. -/
  | noBaseUrl (key : String)
  /-- The body is of a kind that only an encoder could turn into bytes. -/
  | noEncoder (kind : String)
  | coding (error : CodingError)
  | wire (error : WireError)
  deriving DecidableEq, Repr

/-- What a call is made with beside its arguments. -/
structure CallOptions where
  baseUrl : Value := .null
  /-- The name of the charset of bodies. -/
  charset : String := "utf-8"
  encoder : Option BodyEncoder := none

namespace CompiledMethod

/-- The bytes of a body argument. -/
def encodeBody (m : CompiledMethod) (options : CallOptions) :
    Value → Except CallError Bytes
  | .bytes bs => .ok bs
  | .text s => (Charset.encode options.charset s.toList).mapError .coding
  | v =>
    match options.encoder with
    | some encode => .ok (encode v m.bodyType)
    | none => .error (.noEncoder v.kindName)

/-- The base URL of a call. -/
def baseUrl (m : CompiledMethod) (args : List Value) (options : CallOptions) :
    Except CallError Value := do
  let base ← match m.urlIndex with
    | none => pure options.baseUrl
    | some index => (argumentAt args index).mapError .argument
  if base.isNull then throw (.noBaseUrl m.configKey)
  pure base

/-- The argument that is to be the body of a request: there is one only if the
request has no body yet and the argument is not none. -/
def bodyArgument (m : CompiledMethod) (args : List Value) (r : ExpandedRequest) :
    Except CallError (Option Value) :=
  match m.bodyIndex, r.body with
  | some index, none => do
    let value ← (argumentAt args index).mapError .argument
    pure (if value.isNull then none else some value)
  | _, _ => .ok none

/-- The request with some bytes as its body. -/
def setContent (content : Bytes) (r : ExpandedRequest) : ExpandedRequest :=
  { r with
    body := some content
    headers := r.headers.insert Header.contentLength [lengthText content] }

/-- The request without the body argument, and the base URL. -/
def prepare (m : CompiledMethod) (args : List Value) (options : CallOptions) :
    Except CallError (ExpandedRequest × Value) := do
  let named ← (m.argumentsByName args).mapError .argument
  let expanded ← (m.template.expand named options.charset).mapError .expansion
  let base ← m.baseUrl args options
  pure (expanded, base)

/-- The request of a call. -/
def request (m : CompiledMethod) (args : List Value) (options : CallOptions) :
    Except CallError WireRequest := do
  let (expanded, base) ← m.prepare args options
  let complete ← match ← m.bodyArgument args expanded with
    | none => pure expanded
    | some value => do pure (setContent (← m.encodeBody options value) expanded)
  (complete.toWire base).mapError .wire

/-- The argument of a call that an encoder is asked to turn into bytes. -/
def encoderInput? (m : CompiledMethod) (args : List Value) (options : CallOptions) :
    Option Value :=
  let argument := do
    let (expanded, _) ← m.prepare args options
    m.bodyArgument args expanded
  match argument with
  | .ok (some (.bytes _)) | .ok (some (.text _)) => none
  | .ok value => value
  | .error _ => none

end CompiledMethod

/-- The message of a call error. -/
def CallError.message : CallError → String
  | .argument e => e.message
  | .expansion e => e.message
  | .noBaseUrl key => s!"{key} needs a base URL to build a request"
  | .noEncoder kind => s!"No encoder given for a body of type {kind}"
  | .coding e => e.message
  | .wire e => e.message

end HttpInterface
