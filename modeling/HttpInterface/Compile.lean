import HttpInterface.CompiledMethod
import HttpInterface.Defect
import HttpInterface.Draft
import HttpInterface.Journal
import HttpInterface.Naming
import HttpInterface.RequestLine
import HttpInterface.Settings

/-!
# `HttpInterface.Compile`: from a declaration to a compiled method

The request line, the headers and the body of a declaration make the template.
Then every parameter is given its use, in order. A parameter of URL type
replaces the base URL. A parameter with a name is bound to it, and is a form
parameter if no placeholder of the url, the queries and the headers has that
name. One parameter may be without a name: it is the body, or of no use when a
body is declared. At last every placeholder must be bound, and a body parameter
leaves no room for form parameters.

The first rule that is broken decides which defect is reported.
-/

set_option autoImplicit false

namespace HttpInterface

/-- Why a declaration is not compiled. -/
inductive CompileError where
  /-- The declaration has a defect. -/
  | defect (defect : Defect)
  /-- The declared body has no bytes in the charset. -/
  | coding (error : CodingError)
  deriving DecidableEq, Repr

namespace Declaration

/-- A defect of the declaration. -/
def defect (d : Declaration) (flaw : Flaw) : CompileError :=
  .defect ⟨flaw, some d.configKey⟩

/-- The draft after the request line. -/
def requestLineDraft (d : Declaration) (charset : String) : Except CompileError Draft :=
  match d.requestLine.bind RequestLine.parse? with
  | none => .error (d.defect (.missingRequestLine d.methodName))
  | some line =>
    .ok (({ charset : Draft }).setMethod line.verb |>.append line.target)

/-- The draft after one more header. -/
def addDeclaredHeader (d : Declaration) (draft : Draft) (header : String) :
    Except CompileError Draft :=
  match Header.parse? header with
  | none => .error (d.defect (.malformedHeader header))
  | some parsed => .ok (draft.addHeader parsed.name parsed.value)

/-- The draft after the declared body. -/
def setDeclaredBody (d : Declaration) (draft : Draft) : Except CompileError Draft :=
  match d.body with
  | none => .ok draft
  | some text =>
    match draft.setBody text with
    | .ok draft => .ok draft
    | .error e => .error (.coding e)

/-- The draft that the request line, the headers and the body make. -/
def draft (d : Declaration) (charset : String) : Except CompileError Draft := do
  let started ← d.requestLineDraft charset
  let headed ← d.headers.foldlM d.addDeclaredHeader started
  d.setDeclaredBody headed

/-- The uses that parameters have been given. -/
structure Bindings where
  indexToName : OrderedMap Int (List String) := .empty
  formParams : List String := []
  /-- The position of the body parameter, and its type. -/
  body : Option (Int × TypeExpr) := none
  urlIndex : Option Int := none
  /-- A parameter without a name has been met. -/
  unnamedSeen : Bool := false

/-- What the uses of parameters depend on. -/
structure BindingContext where
  declaration : Declaration
  resolver : NameResolver
  /-- The names in the url, the queries and the headers. -/
  httpNames : List String
  /-- A body is declared. -/
  hasBody : Bool

/-- Binds a parameter to its name. -/
def bindNamed (ctx : BindingContext) (b : Bindings) (p : Parameter) (name : String) :
    Journaled CompileError Bindings := do
  let ignored := (ctx.resolver.candidates p).filter (· ≠ name)
  if !ignored.isEmpty then
    Journaled.report (.namesIgnored ctx.declaration.configKey p.name name ignored)
  let isForm := !ctx.httpNames.contains name && !b.formParams.contains name
  pure
    { b with
      indexToName := b.indexToName.insert p.index [name]
      formParams := if isForm then b.formParams ++ [name] else b.formParams }

/-- Gives a parameter without a name its use. -/
def bindUnnamed (ctx : BindingContext) (b : Bindings) (p : Parameter) :
    Journaled CompileError Bindings := do
  let d := ctx.declaration
  if b.unnamedSeen then
    throw (d.defect (.tooManyBodyParameters d.methodName d.parameters.length))
  if ctx.hasBody then
    Journaled.report (.parameterIgnored d.configKey p.name)
    pure { b with unnamedSeen := true }
  else
    pure { b with unnamedSeen := true, body := some (p.index, p.type) }

/-- Gives a parameter its use. -/
def bindParameter (ctx : BindingContext) (b : Bindings) (p : Parameter) :
    Journaled CompileError Bindings :=
  if p.isUrl then
    match b.urlIndex with
    | some _ => throw (ctx.declaration.defect .severalUrlParameters)
    | none => pure { b with urlIndex := some p.index }
  else
    match ctx.resolver.resolve p with
    | some name => bindNamed ctx b p name
    | none => bindUnnamed ctx b p

/-- Checks what only all uses together show. -/
def checkBindings (d : Declaration) (template : Template) (b : Bindings) :
    Except CompileError Unit := do
  let bound := b.indexToName.values.flatten
  if let some name := template.placeholders.find? (!bound.contains ·) then
    throw (d.defect (.unresolvedPlaceholder name))
  if b.body.isSome && !b.formParams.isEmpty then
    throw (d.defect (.formParametersWithBody b.formParams))

/-- Compiles a method. The key is taken as it is; `compileUnderKey` asks first whether it can be
told. -/
def compile (d : Declaration) (settings : Settings) (resolver : NameResolver) :
    Journaled CompileError CompiledMethod := do
  let draft ← Journaled.ofExcept (d.draft settings.bodyCharset)
  let template := draft.template
  let ctx : BindingContext := ⟨d, resolver, template.httpPlaceholders, draft.hasBody⟩
  let bindings ← d.parameters.foldlM (bindParameter ctx) {}
  Journaled.ofExcept (d.checkBindings template bindings)
  Journaled.report (.methodCompiled d.configKey template.method template.url)
  pure
    { configKey := d.configKey
      template
      formParams := bindings.formParams
      indexToName := bindings.indexToName
      bodyIndex := bindings.body.map Prod.fst
      bodyType := (bindings.body.map Prod.snd).getD .none
      urlIndex := bindings.urlIndex
      returnType := d.returnType }

end Declaration

/-- The message of a compile error. -/
def CompileError.message : CompileError → String
  | .defect d => d.message
  | .coding e => e.message

end HttpInterface
