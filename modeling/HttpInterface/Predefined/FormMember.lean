import HttpInterface.Object.Calling
import HttpInterface.Predefined.Function

/-!
# `HttpInterface.Predefined.FormMember`: calls of the methods of forms

The methods of a form give types that are made of it, or say something about it.
-/

set_option autoImplicit false

namespace HttpInterface.Predefined

open Evaluation

/-- How a method of a form takes its arguments. -/
def formCalling (owner name : String) : Calling :=
  if name = "__call__" || name = "__init__" then .any
  else .written ((FormMethod.parameterNames owner name).map fun n => { name := n })

/-- A form with other arguments. They are taken as they are. -/
def copyForm (t : TypeExpr) (given : Object) : Evaluation Object := do
  let args ← match given with
    | .tuple items => frozenAll items
    | o => do pure [← frozen o]
  match t with
  | .union _ =>
    Object.ofResult (TypeExpr.apply (.bare (.ofForm "Union" "Union")) (← frozen given))
  | .bare head | .applied head _ => pure (.fixed (.applied head args))
  | .annotated _ markers => pure (.fixed (.annotated (args.headD .none) markers))
  | .literal _ => pure (.fixed (.literal (args.filterMap TypeExpr.constant?)))
  | t => pure (.fixed t)

/-- What a method of a form makes; `owner` is the kind of forms that has it. -/
def callForm (engine : Engine) (t : TypeExpr) (owner name : String) (given : ArgumentList Object) :
    Evaluation Object := do
  let args ← (formCalling owner name).take (qualifiedName owner name) name given
  let o : Object := .fixed t
  let first := argument args 0
  match name with
  | "__getitem__" => subscript o first
  | "copy_with" => copyForm t first
  | "__call__" => engine.call o given
  | "__or__" => Object.ofResult (TypeExpr.unionOf [t, ← frozen first])
  | "__ror__" => Object.ofResult (TypeExpr.unionOf [← frozen first, t])
  | "__eq__" =>
    if (← kindName first) = t.kindName then .bool <$> equal o first else pure notImplemented
  | "__hash__" => hashOf o
  | "__repr__" => .text <$> shownText o
  | "__instancecheck__" => .bool <$> isInstanceOf first o
  | "__subclasscheck__" => .bool <$> testClass .isSubclass first o
  | "__getattr__" => memberOf o (← memberName first)
  | "__dir__" => do makeList ((← listedNames o).map Object.text)
  | "__iter__" => iterator o
  | "__mro_entries__" =>
    if owner = "_SpecialForm" then typeError s!"Cannot subclass {t.shown}"
    pure (.tuple [← memberOf o "__origin__"])
  | "__reduce__" =>
    match t with
    | .bare head => pure (.text head.name)
    | _ => throw (.notCallable "method")
  | "__setattr__" | "__init__" | "__init_subclass__" => pure .none
  | _ => throw (.notCallable "method")

end HttpInterface.Predefined
