import HttpInterface.Expression.Evaluate

/-!
# `HttpInterface.TypeExpr.LookUp`: the types that texts stand for

A declared type may be a text that names it, so that a class can be mentioned
before it is defined. The text is an expression, and its value takes the place of
the text. It is read when the method is described, and its names are looked up
then. A text whose value is a text again is looked up once more, and so is any text
among the arguments of a type. A text that stands for itself stays a text.

What is wrong with the form of a text is found before any name in it is looked up.
A name that a text gives a value keeps it in the texts that follow.
-/

set_option autoImplicit false

namespace HttpInterface

namespace TypeExpr

/-- Checks all texts among the arguments of a container. -/
def checkTexts (args : List TypeExpr) : Except TypeExprError Unit :=
  args.forM fun
    | .text s => do
      let _ ← checkText s
      pure ()
    | _ => pure ()

open Evaluation (ofTypeResult)

mutual

/-- The type with every text in it looked up by `resolve`. -/
def lookUpBy (resolve : String → Evaluation TypeExpr) : TypeExpr → Evaluation TypeExpr
  | .deferred s => resolve s
  | .applied head args => do
    ofTypeResult (checkTexts args)
    pure (.applied head (← lookUpArguments resolve args))
  | .unpacked t => do pure (.unpacked (← lookUpBy resolve t))
  | .union members => do ofTypeResult (unionOf (← lookUpArguments resolve members))
  | .bars members => do ofTypeResult (barAll (← lookUpArguments resolve members))
  | .annotated base markers => do ofTypeResult (mark (← lookUpBy resolve base) markers)
  | t => pure t

/-- The arguments of a type with every text in them looked up. -/
def lookUpArguments (resolve : String → Evaluation TypeExpr) :
    List TypeExpr → Evaluation (List TypeExpr)
  | [] => pure []
  | .text s :: rest => do
    let t ← resolve s
    pure (t :: (← lookUpArguments resolve rest))
  | t :: rest => do
    let u ← lookUpBy resolve t
    pure (u :: (← lookUpArguments resolve rest))

end

/-- How often a text may stand for another one. -/
def maxTexts : Nat := 150

/-- The type that a text stands for. `known` are the texts that are being looked up, and
`fuel` bounds how many these may be. -/
def resolveText (fuel : Nat) (known : List String) (s : String) : Evaluation TypeExpr := do
  if known.contains s then return .deferred s
  match fuel with
  | 0 => Evaluation.raise "RecursionError" "maximum recursion depth exceeded"
  | fuel + 1 =>
    let e ← ofTypeResult (checkText s)
    let t ← Evaluation.frozen (← e.value)
    let t ← ofTypeResult (t.asType .reference)
    t.lookUpBy (resolveText fuel (s :: known))

/-- The type that a text stands for. -/
def ofText (s : String) : Evaluation TypeExpr := resolveText maxTexts [] s

/-- The type with every text in it looked up. No type is the type of having no
value. -/
def lookUp (t : TypeExpr) : Evaluation TypeExpr :=
  match t with
  | .none => pure .noneType
  | .text s => ofText s
  | t => t.lookUpBy ofText

end TypeExpr

end HttpInterface
