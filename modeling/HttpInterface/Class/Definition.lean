import HttpInterface.Object
import HttpInterface.OrderedMap
import HttpInterface.Text.Blank
import HttpInterface.Text.Normal
import HttpInterface.TypeExpr.OfValue
import HttpInterface.Value

/-!
# `HttpInterface.Class.Definition`: interface classes as they are written

A class has bases, members by name, and marks. A member that makes a declaration is
a plain function, with its parameters, their types and its own marks; the marks state
the request line, headers and the body. What a class defines under one name
twice is what it defines last, in the place of the first. A base may have
arguments, and then it may leave type variables open.
-/

set_option autoImplicit false

namespace HttpInterface

/-- A mark on a class or a function. What it states should be texts, but a mark takes any
value; whether they are texts is found out when a declaration is made. -/
inductive Decorator where
  | requestLine (line : Value)
  | headers (headers : List Value)
  | body (text : Value)

/-- What marks leave on a class or a function, by name. -/
abbrev Marks := OrderedMap String Value

namespace Marks

/-- The name for the request line. -/
def requestLineName : String := "request_line"

/-- The name for the headers. -/
def headersName : String := "headers"

/-- The name for the body. -/
def bodyName : String := "body"

/-- The headers that marks left. -/
def headerList (m : Marks) : List Value :=
  match m.get? headersName with
  | some (.tuple headers) => headers
  | _ => []

/-- What marks leave with one more on top of them. A request line or a body takes the place
of an earlier one, and headers stand in front of earlier ones. -/
def add (m : Marks) : Decorator → Marks
  | .requestLine line => m.insert requestLineName line
  | .headers headers => m.insert headersName (.tuple (headers ++ m.headerList))
  | .body text => m.insert bodyName text

/-- What marks leave, top one first. -/
def ofDecorators (decorators : List Decorator) : Marks :=
  decorators.foldr (fun d m => add m d) .empty

end Marks

/-- A parameter of a function; without a type anything is admitted. -/
structure FunctionParameter where
  name : String
  type : Option TypeExpr := none
  kind : ParameterKind := .normal
  /-- The parameter has a value of its own if it is given none. -/
  isOptional : Bool := false

/-- The name of a parameter in its normal form. -/
def FunctionParameter.normalName (p : FunctionParameter) : String :=
  String.ofList (Text.normalName (Text.trimSpaces p.name.toList))

/-- A function. -/
structure FunctionDef where
  name : String
  /-- The marks, top one first. -/
  decorators : List Decorator := []
  /-- The parameters, the one for the object included. -/
  parameters : List FunctionParameter := []
  returnType : Option TypeExpr := none
  /-- The first parameter takes the object without being asked for. -/
  takesObject : Bool := true
  /-- The package that holds the function. -/
  package : String := ""
  /-- The classes that the texts of its types may name. -/
  known : List KnownClass := []

/-- The parameters of a function as a call sees them. -/
def FunctionDef.signature (f : FunctionDef) : Signature.Parameters :=
  f.parameters.map fun p => { name := p.normalName, kind := p.kind, isOptional := p.isOptional }

/-- The member that holds what marks leave. -/
def marksName : String := "__restline__"

/-- What marks leave as a value. -/
def Marks.toValue (m : Marks) : Value :=
  .dict (m.entries.map fun e => (.text e.1, e.2))

/-- A function as the texts of types see it. -/
def FunctionDef.asKnown (f : FunctionDef) : KnownFunction :=
  let marks := Marks.ofDecorators f.decorators
  { name := f.name
    parameters := f.signature
    annotations :=
      (f.parameters.filterMap fun p => p.type.map fun t => (p.normalName, t)) ++
        (f.returnType.map fun t => ("return", t)).toList
    attributes := if marks.isEmpty then [] else [(marksName, .ofValue marks.toValue)] }

/-- What a class defines under a name. -/
inductive Member where
  | function (f : FunctionDef)
  /-- What another name of the class stands for. -/
  | sameAs (name : String)
  /-- A function that takes no object. -/
  | staticFunction (f : FunctionDef)
  /-- A function that takes the class in the place of an object. -/
  | classFunction (f : FunctionDef)
  | property
  | value (v : Value)
  /-- A place that the values of a class have for a name. -/
  | place (owner name : String)
  /-- A class within the class. -/
  | nested (name : String)

namespace Member

/-- The name of the class that a member belongs to as a value. -/
def kindName : Member → String
  | function _ | sameAs _ => "function"
  | staticFunction _ => "staticmethod"
  | classFunction _ => "classmethod"
  | property => "property"
  | value v => v.kindName
  | place _ _ => "member_descriptor"
  | nested _ => "type"

/-- A member counts as true in a condition. -/
def isTrue : Member → Bool
  | value v => v.isTrue
  | _ => true

end Member

/-- What a class may be derived from. -/
inductive Base where
  | object
  | protocol
  /-- The class of URLs. -/
  | url
  | named (name : String)
  /-- `Generic` with arguments. -/
  | genericForm (args : List TypeExpr)
  /-- `Protocol` with arguments. -/
  | protocolForm (args : List TypeExpr)
  /-- A class with arguments. -/
  | namedForm (name : String) (args : List TypeExpr)

/-- A class as it is written. -/
structure ClassDef where
  name : String
  bases : List Base := []
  members : List (String × Member) := []
  decorators : List Decorator := []
  /-- The class is not written anywhere: a type has mentioned it. -/
  isMentioned : Bool := false

namespace Base

/-- The base has arguments. -/
def isForm : Base → Bool
  | genericForm _ | protocolForm _ | namedForm _ _ => true
  | _ => false

/-- The arguments of the base. -/
def args : Base → List TypeExpr
  | genericForm ts | protocolForm ts | namedForm _ ts => ts
  | _ => []

/-- The type variables of the base if it is `Generic` with arguments. -/
def genericVariables? : Base → Option (List String)
  | genericForm ts => some (TypeExpr.typeVariablesOf ts)
  | _ => none

end Base

end HttpInterface
