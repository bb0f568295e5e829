import HttpInterface.Text.Quoted

/-!
# `HttpInterface.Defect`: what is wrong with a declaration

A defect is permanent: a method with a defect can never be called, so neither
the method nor its interface is compiled. A defect tells its cause and, where a
method is known, the key of the method.
-/

set_option autoImplicit false

namespace HttpInterface

/-- The cause of a defect. -/
inductive Flaw where
  /-- There is no request line, or it has no verb. -/
  | missingRequestLine (method : String)
  /-- A header is not a name, a colon and a value. -/
  | malformedHeader (header : String)
  /-- More than one parameter has no name. -/
  | tooManyBodyParameters (method : String) (count : Nat)
  /-- A placeholder is bound to no parameter. -/
  | unresolvedPlaceholder (name : String)
  /-- A parameter is the body while others are form parameters. -/
  | formParametersWithBody (names : List String)
  /-- More than one parameter replaces the base URL. -/
  | severalUrlParameters
  /-- A parameter takes any number of arguments. -/
  | variadicParameter (parameter owner method : String)
  /-- Two classes of an interface define a method of one name. -/
  | overriddenMethod
  /-- The interface has type parameters of its own. -/
  | parameterizedInterface (name : String)
  /-- The interface has more than one base. -/
  | severalBases (name : String)
  deriving DecidableEq, Repr

/-- A defect: its cause and the method that has it. -/
structure Defect where
  flaw : Flaw
  key : Option String := none
  deriving DecidableEq, Repr

/-- The text of a cause. -/
def Flaw.message : Flaw → String
  | .missingRequestLine method =>
    s!"Method {method} not annotated with HTTP method type (ex. GET, POST)"
  | .malformedHeader header =>
    s!"Header must be in the form 'Name: value', got {Text.quoted header}"
  | .tooManyBodyParameters method count =>
    s!"Method has too many Body parameters: {method} declares {count} parameters"
  | .unresolvedPlaceholder name =>
    "Placeholder \x7b" ++ name ++ "\x7d is not bound to any parameter"
  | .formParametersWithBody names =>
    "Body parameters cannot be used with form parameters: " ++ ", ".intercalate names
  | .severalUrlParameters => "Method has more than one URL parameter"
  | .variadicParameter parameter owner method =>
    s!"Variadic parameter '{parameter}' unsupported on {owner}.{method}"
  | .overriddenMethod => "Overrides unsupported"
  | .parameterizedInterface name => s!"Parameterized types unsupported: {name}"
  | .severalBases name => s!"Only single inheritance supported: {name}"

/-- The message of a defect, with the key of its method behind it. -/
def Defect.message (d : Defect) : String :=
  match d.key with
  | none => d.flaw.message
  | some key => if key.isEmpty then d.flaw.message else s!"{d.flaw.message} (at {key})"

end HttpInterface
