import HttpInterface.Json
import HttpInterface.Json.Read
import HttpInterface.Object.Collection

/-!
# `HttpInterface.Object.JsonForm`: values as JSON documents

Lists and tuples are arrays, and dictionaries are objects, with their keys as texts. What is
read from a document is put together in new lists and dictionaries.
-/

set_option autoImplicit false

namespace HttpInterface

/-- The key of a member that a constant makes. -/
def Constant.jsonKey? : Constant → Option String
  | .null => some "null"
  | .bool b => some (if b then "true" else "false")
  | .int i => some (toString i)
  | .float s => some s
  | .text s => some s
  | _ => none

/-- The document of a constant. -/
def Constant.json? : Constant → Option Json
  | .null => some .null
  | .bool b => some (.bool b)
  | .int i => some (.int i)
  | .float s =>
    some (.real (if s = "nan" then "NaN" else if s = "inf" then "Infinity"
      else if s = "-inf" then "-Infinity" else s))
  | .text s => some (.text s)
  | _ => none

namespace TypeExpr

/-- The constant that a value is. -/
def constant? : TypeExpr → Option Constant
  | .none => some .null
  | .text s => some (.text s)
  | .constant c => some c
  | _ => Option.none

mutual

/-- The document of a value, or the kind of what no document can hold. -/
def json : TypeExpr → Except String Json
  | .tuple items | .list items => do pure (.array (← jsonItems items))
  | .dict keys values => do pure (.object ((← keys.mapM jsonKey).zip (← jsonItems values)))
  | t =>
    match t.constant?.bind Constant.json? with
    | some d => .ok d
    | Option.none => .error t.kindName

/-- The documents of values. -/
def jsonItems : List TypeExpr → Except String (List Json)
  | [] => .ok []
  | t :: rest => do
    let d ← json t
    pure (d :: (← jsonItems rest))

/-- The name of a member. -/
def jsonKey (t : TypeExpr) : Except String String :=
  match t.constant?.bind Constant.jsonKey? with
  | some s => .ok s
  | Option.none => .error t.kindName

end

end TypeExpr

namespace Evaluation

/-- The document of an object. -/
def jsonOf (o : Object) : Evaluation Json := do
  match (← frozen o).json with
  | .ok d => pure d
  | .error kind => typeError s!"Object of type {kind} is not JSON serializable"

mutual

/-- A document as an object. -/
def ofJson : Json → Evaluation Object
  | .null => pure .none
  | .bool b => pure (.bool b)
  | .int i => pure (.int i)
  | .real written => pure (.float ((Decimal.readFloat? written).getD 0.0))
  | .text s => pure (.text s)
  | .array items => do makeList (← ofJsonItems items)
  | .object members => do makeDict (← ofJsonMembers members)

/-- Documents as objects. -/
def ofJsonItems : List Json → Evaluation (List Object)
  | [] => pure []
  | d :: rest => do
    let o ← ofJson d
    pure (o :: (← ofJsonItems rest))

/-- Members as entries. -/
def ofJsonMembers : List (String × Json) → Evaluation (List (Object × Object))
  | [] => pure []
  | (name, d) :: rest => do
    let o ← ofJson d
    pure ((.text name, o) :: (← ofJsonMembers rest))

end

end Evaluation

end HttpInterface
