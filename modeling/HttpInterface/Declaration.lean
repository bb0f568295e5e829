import HttpInterface.TypeExpr

/-!
# `HttpInterface.Declaration`: what is declared about a method

A declaration is all that is known of an interface method before it is compiled:
its request line, the headers of its class and its own, its body, and its
parameters with the names they are marked with. Its key names the declaring
type, the method and the short types of the parameters. `configKey` is the key
however long the numbers in it are; `hasTellableKey` says whether it can be told.
-/

set_option autoImplicit false

namespace HttpInterface

/-- A parameter of a method. -/
structure Parameter where
  /-- Its position among the arguments of a call. -/
  index : Int
  name : String
  type : TypeExpr := .none
  /-- The name that it is bound to. -/
  primaryName : Option String := none
  /-- The name that an older marker binds it to. -/
  legacyName : Option String := none
  /-- Its argument replaces the base URL. -/
  isUrl : Bool := false

/-- What is declared about a method. -/
structure Declaration where
  declaringType : String
  methodName : String
  requestLine : Option String := none
  classHeaders : List String := []
  methodHeaders : List String := []
  body : Option String := none
  parameters : List Parameter := []
  returnType : TypeExpr := .none

namespace Declaration

/-- The key of a method: `Type#method(type,..)`. -/
def configKey (d : Declaration) : String :=
  d.declaringType ++ "#" ++ d.methodName ++ "(" ++
    ",".intercalate (d.parameters.map fun p => p.type.name) ++ ")"

/-- The key can be told, as the names of all types in it can. -/
def hasTellableKey (d : Declaration) : Bool :=
  d.parameters.all fun p => p.type.hasTellableName

/-- The headers of the class, then those of the method. -/
def headers (d : Declaration) : List String :=
  d.classHeaders ++ d.methodHeaders

end Declaration

end HttpInterface
