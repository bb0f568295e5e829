import HttpInterface.Class.Table
import HttpInterface.Compile
import HttpInterface.Declaration
import HttpInterface.Defect
import HttpInterface.Record.OfFields
import HttpInterface.TypeExpr.LookUp

/-!
# `HttpInterface.Class.Describe`: the declarations that an interface makes

The methods of an interface are the public functions of its class and of its
ancestors, the most basic class first, in the order of their definition. Every
method gets the headers of all these classes. An interface has no type
parameters of its own and at most one base, and no two of its classes define a
method of one name.

A function is described without its first parameter, which takes the object.
Its types are looked up before its parameters are read, and a name that one of them
gives a value keeps it in those that follow. The names of its parameters count in their
normal form.

The types of a declaration get their texts only where its key is told: when it is compiled, or when
it takes the name of another one.
-/

set_option autoImplicit false

namespace HttpInterface

/-- Why an interface is not described. -/
inductive DescribeError where
  | defect (defect : Defect)
  /-- A mark states what is no text. -/
  | issues (issues : List Issue)
  /-- The text of a type stands for no type, or a type in a key has no text that can be told. -/
  | type (error : TypeExprError)
  deriving DecidableEq, Repr

/-- Why an interface is not compiled. -/
inductive InterfaceError where
  | describe (error : DescribeError)
  | compile (error : CompileError)
  deriving DecidableEq, Repr

namespace FunctionDef

/-- What the marks of a function leave on it. -/
def marks (f : FunctionDef) : Marks := .ofDecorators f.decorators

/-- The types of the parameters by names of their own, which count the parameters. The one
for the object is not counted. -/
def typeNames (f : FunctionDef) : List (String × TypeExpr) :=
  let counted := if f.takesObject then f.parameters.drop 1 else f.parameters
  counted.zipIdx.filterMap fun (p, i) => p.type.map fun t => (s!"_a{i}", t)

/-- What the texts of the types of a function may name. -/
def visibleNames (f : FunctionDef) : Evaluation.Namespace :=
  { package := f.package
    classes := f.known
    names := f.typeNames
    function? := some f.asKnown }

/-- The parameters with their numbers, in the order in which their types are looked up. -/
def lookUpOrder (f : FunctionDef) : List (FunctionParameter × Nat) :=
  ParameterKind.lookUpOrder.flatMap fun kind =>
    f.parameters.zipIdx.filter fun p => p.1.kind = kind

/-- The types of all parameters and of the result, looked up; `none` where no
type is declared. Of several errors the first one counts, in the order of the
look-up and not in that of the parameters. -/
def lookUpTypes (f : FunctionDef) : Evaluation (List (Option TypeExpr) × Option TypeExpr) := do
  let found ← f.lookUpOrder.mapM fun p => do pure (p.2, ← p.1.type.mapM TypeExpr.lookUp)
  let result ← f.returnType.mapM TypeExpr.lookUp
  pure ((List.range f.parameters.length).map fun i => (found.lookup i).join, result)

end FunctionDef

namespace Marker

/-- The name of a usual marker. -/
def primary? : Marker → Option String
  | param name => some name
  | _ => none

/-- The name of an older marker. -/
def legacy? : Marker → Option String
  | named name => some name
  | _ => none

end Marker

/-- The parameter that a declared type describes. Of several markers of one kind
the last counts. -/
def describeParameter (index : Nat) (name : String) (declared : Option TypeExpr) :
    Parameter :=
  let make (type : TypeExpr) (markers : List Marker) : Parameter :=
    { index
      name
      type
      primaryName := (markers.filterMap Marker.primary?).getLast?
      legacyName := (markers.filterMap Marker.legacy?).getLast?
      isUrl := type.isUrl }
  match declared.getD .any with
  | .annotated base markers => make base markers
  | type => make type []

/-- The declaration that a function makes. -/
def FunctionDef.describe (f : FunctionDef) (declaringType : Value)
    (classHeaders : List Value) : Except DescribeError Declaration := do
  let (types, returnType) ← (Evaluation.runIn f.visibleNames f.lookUpTypes).mapError .type
  let declared := (f.parameters.zip types).drop 1
  if let some (p, _) := declared.find? fun e => e.1.kind.isVariadic then
    throw (.defect ⟨.variadicParameter p.normalName declaringType.display f.name, none⟩)
  let stated (name : String) : Value := (f.marks.get? name).getD .null
  let fields : Record.Fields :=
    [("declaring_type", declaringType), ("method_name", .text f.name),
     ("request_line", stated Marks.requestLineName), ("class_headers", .tuple classHeaders),
     ("method_headers", .tuple f.marks.headerList), ("body", stated Marks.bodyName)]
  let parameters := declared.mapIdx fun i e => describeParameter i e.1.normalName e.2
  (Declaration.ofFields fields parameters (returnType.getD .none)).toExcept.mapError .issues

namespace Declaration

/-- The key of a method, told. -/
def tellKey (d : Declaration) : Except DescribeError String :=
  if d.hasTellableKey then .ok d.configKey else .error (.type .tooManyDigits)

/-- Compiles a method after its key is told. -/
def compileUnderKey (d : Declaration) (settings : Settings) (resolver : NameResolver) :
    Journaled InterfaceError CompiledMethod := do
  let _ ← Journaled.ofExcept (d.tellKey.mapError .describe)
  (d.compile settings resolver).mapError .compile

end Declaration

namespace DefinedClass

/-- The public functions of a class with the names that they have there. -/
def publicFunctions (c : DefinedClass) : List (String × FunctionDef) :=
  c.namespaceMap.entries.filterMap fun e =>
    match e.2 with
    | .function f => if e.1.toList.head? = some '_' then none else some (e.1, f)
    | _ => none

end DefinedClass

namespace ClassTable

/-- The package whose classes are no part of an interface. -/
def hiddenPackage : String := "typing"

/-- A class of an interface. -/
inductive InterfaceClass where
  | defined (c : DefinedClass)
  /-- The class of URLs, whose functions do not make declarations. -/
  | url

/-- The class and its ancestors, most basic first, without those that every interface may
have. A class that says that it is one of these is left out. -/
def interfaceClasses (table : ClassTable) (c : DefinedClass) : List InterfaceClass :=
  c.ancestors.reverse.filterMap fun a =>
    if a = .url then some .url
    else
      let defined := if a = .defined c.index then some c else table.definedOf? a
      (defined.filter fun k => !k.isOfPackage hiddenPackage).map .defined

/-- The headers that marks left on a class of an interface. -/
def InterfaceClass.headerList : InterfaceClass → Except DescribeError (List Value)
  | .defined c => c.headerList.mapError .type
  | .url => .ok []

/-- The class may be an interface as far as its bases go. -/
def checkInterface (table : ClassTable) (c : DefinedClass) : Except DescribeError Unit := do
  let name := c.definition.name
  if table.isParameterized c then throw (.defect ⟨.parameterizedInterface name, none⟩)
  let bases := c.bases.filter fun b => b ≠ .object ∧ b ≠ .protocol
  if 1 < bases.length then throw (.defect ⟨.severalBases name, none⟩)

/-- Adds the declaration of one function. -/
def addDeclaration (declaringType : String) (classHeaders : List Value)
    (declared : OrderedMap String Declaration) (entry : String × FunctionDef) :
    Except DescribeError (OrderedMap String Declaration) := do
  let declaration ← entry.2.describe (.text declaringType) classHeaders
  if declared.contains entry.1 then
    throw (.defect ⟨.overriddenMethod, some (← declaration.tellKey)⟩)
  pure (declared.insert entry.1 declaration)

/-- Adds the declarations that the functions of one class make. The first function of the
class of URLs makes none. -/
def addDeclarations (declaringType : String) (classHeaders : List Value)
    (declared : OrderedMap String Declaration) :
    InterfaceClass → Except DescribeError (OrderedMap String Declaration)
  | .defined c => c.publicFunctions.foldlM (addDeclaration declaringType classHeaders) declared
  | .url => throw (.defect ⟨.variadicParameter "kwargs" declaringType "copy_with", none⟩)

/-- The declarations that an interface makes. -/
def describe (table : ClassTable) (c : DefinedClass) :
    Except DescribeError (List Declaration) := do
  table.checkInterface c
  let classes := table.interfaceClasses c
  let classHeaders ← classes.mapM InterfaceClass.headerList
  let declared ← classes.foldlM
    (addDeclarations c.definition.name classHeaders.flatten) .empty
  pure declared.values

/-- Compiles every method of an interface, by their keys. -/
def compile (table : ClassTable) (c : DefinedClass) (settings : Settings)
    (resolver : NameResolver) :
    Journaled InterfaceError (OrderedMap String CompiledMethod) := do
  let declarations ← Journaled.ofExcept ((table.describe c).mapError .describe)
  let compiled ← declarations.foldlM (fun compiled d => do
    let m ← d.compileUnderKey settings resolver
    pure (compiled.insert m.configKey m)) .empty
  Journaled.report (.interfaceCompiled compiled.entries.length c.definition.name)
  pure compiled

end ClassTable

/-- The message of a describe error. -/
def DescribeError.message : DescribeError → String
  | .defect d => d.message
  | .issues found => Issue.messages found
  | .type e => e.message

/-- The message of an interface error. -/
def InterfaceError.message : InterfaceError → String
  | .describe e => e.message
  | .compile e => e.message

end HttpInterface
