import HttpInterface.Value

/-!
# `HttpInterface.Variable`: variables of the environment

A variable has a name and a value. A name is not empty and holds no `=`, which would
end it, and neither of both holds the character that ends every text of the
environment. Only a text can be the value.
-/

set_option autoImplicit false

namespace HttpInterface

/-- A variable of the environment. -/
structure Variable where
  name : String
  value : String
  deriving DecidableEq, Repr

/-- Why the environment cannot have a variable. -/
inductive VariableError where
  /-- The name or the value holds the character that ends a text. -/
  | nul
  /-- The name holds `=`. -/
  | equalsInName
  | noName
  /-- The value is no text but of this kind. -/
  | noText (kind : String)
  deriving DecidableEq, Repr

/-- The message of a variable error. -/
def VariableError.message : VariableError → String
  | nul => "embedded null byte"
  | equalsInName => "illegal environment variable name"
  | noName => "[Errno 22] Invalid argument"
  | noText kind => s!"str expected, not {kind}"

/-- Checks that the environment can have a variable. -/
def Variable.check (v : Variable) : Except VariableError Unit :=
  if v.name.contains '\x00' || v.value.contains '\x00' then .error .nul
  else if v.name.contains '=' then .error .equalsInName
  else if v.name.isEmpty then .error .noName
  else .ok ()

namespace Variable

/-- The variable of a name and a value, if the environment can have it. -/
def ofValue (name : String) (value : Value) : Except VariableError Variable :=
  match value with
  | .text value => do
    let v : Variable := ⟨name, value⟩
    v.check
    pure v
  | value => .error (.noText value.kindName)

/-- The variables of names and values. -/
def ofValues (entries : List (String × Value)) : Except VariableError (List Variable) :=
  entries.mapM fun e => ofValue e.1 e.2

/-- The variables of names and values, of which those without a value are not set. -/
def ofSetValues (entries : List (String × Value)) : Except VariableError (List Variable) :=
  ofValues (entries.filter fun e => !e.2.isNull)

end Variable

end HttpInterface
