import HttpInterface.Call
import HttpInterface.Record.Text

/-!
# `HttpInterface.Record.Coding`: calls with a charset that is a value

The charset of bodies may be given as any value. One that is no text is refused where a body
has to be encoded or decoded, and not before: a request whose body needs no charset is made
all the same.
-/

set_option autoImplicit false

namespace HttpInterface

/-- Where a body template is the first time in need of a charset: where an argument with any
text is quoted, where the filled text holds a percent sign, or at last where it is encoded.
No charset at all is as good as the usual one except for the last of these. -/
def Template.firstCoding (charset : Value) (args : Arguments) (text : String) :
    CodingDirection :=
  let isBlank (name : String) : Bool :=
    (args.get? name).all fun v => v.requestText.isEmpty
  if !charset.isNull && (Placeholder.names text).all isBlank then
    let literal := Placeholder.substitute (fun _ => "") text
    if '%' ∈ literal.toList then .decode else .encode
  else .encode

/-- Fills the gaps of a template, with the charset of its body given as a value. -/
def Template.expandIn (t : Template) (args : Arguments) (charset : Value) :
    Except ExpansionError ExpandedRequest :=
  match charset with
  | .text name => t.expand args name
  | v => do
    let expanded ← t.expand args "utf-8"
    match t.bodyTemplate with
    | none => pure expanded
    | some text => throw (.coding (v.noCharsetName (firstCoding v args text)))

namespace CompiledMethod

/-- The template of a method, filled for a call with a charset given as a value. -/
def expandIn (m : CompiledMethod) (args : List Value) (charset : Value) :
    Except CallError ExpandedRequest := do
  let named ← (m.argumentsByName args).mapError .argument
  (m.template.expandIn named charset).mapError .expansion

/-- The request of a call that is made with a charset given as a value. -/
def requestIn (m : CompiledMethod) (args : List Value) (options : CallOptions)
    (charset : Value) : Except CallError WireRequest :=
  match charset with
  | .text name => m.request args { options with charset := name }
  | v => do
    let expanded ← m.expandIn args v
    let _ ← m.baseUrl args options
    match ← m.bodyArgument args expanded with
    | some (.text _) => throw (.coding (v.noCharsetName .encode))
    | _ => m.request args options

/-- The argument that an encoder is asked for in a call with a charset given as a value. -/
def encoderInputIn? (m : CompiledMethod) (args : List Value) (options : CallOptions)
    (charset : Value) : Option Value :=
  match charset with
  | .text name => m.encoderInput? args { options with charset := name }
  | v =>
    match m.expandIn args v with
    | .ok _ => m.encoderInput? args options
    | .error _ => none

end CompiledMethod

end HttpInterface
