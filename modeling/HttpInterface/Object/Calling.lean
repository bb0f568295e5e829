import HttpInterface.Object

/-!
# `HttpInterface.Object.Calling`: the arguments of predefined functions

A predefined function takes no arguments, one, some by position, or some that have
names. `Calling.take` gives the function what it is called with, a place for each of its
parameters, or says why the call does not fit.
-/

set_option autoImplicit false

namespace HttpInterface

/-- How a predefined function takes its arguments. -/
inductive Calling where
  | nothing
  | one
  /-- So many by position. -/
  | positional (least most : Nat)
  /-- So many by position, in other words if they do not fit. -/
  | counted (least most : Nat)
  /-- Parameters with names, of which so many at least are needed and so many can be given
  by position. A parameter without a name can be given by position only. -/
  | named (least byPosition : Nat) (names : List String)
  /-- Those of a method that is written in a class: what it belongs to comes in front. -/
  | written (parameters : List SignatureParameter)
  /-- As many as there are. -/
  | any
  deriving DecidableEq, Repr

namespace Calling

/-- A number of things. -/
def amount (count : Nat) (thing : String) : String :=
  s!"{count} {thing}{pluralEnding count}"

/-- The bound that a number of arguments is beyond. -/
def boundWords (least most given : Nat) : String :=
  if least = most then "" else if given < least then "at least " else "at most "

/-- The number of arguments that would fit. -/
def nearest (least most given : Nat) : Nat := if given < least then least else most

/-- What is said of a wrong number of arguments by position. -/
def positionalMessage (name : String) (least most given : Nat) : String :=
  let expected := boundWords least most given ++ amount (nearest least most given) "argument"
  s!"{name} expected {expected}, got {given}"

/-- What is said, in other words, of a wrong number of arguments by position. -/
def countedMessage (name : String) (least most given : Nat) : String :=
  let bound := if least = most then "exactly " else boundWords least most given
  let expected := bound ++ amount (nearest least most given) "argument"
  s!"{name}() takes {expected} ({given} given)"

/-- What is said of too many arguments for parameters with names. -/
def namedMessage (name : String) (least most given byPosition : Nat) : String :=
  let bound := if least < most then "at most" else "exactly"
  let what := if byPosition = 0 then "keyword argument" else "argument"
  s!"{name}() takes {bound} {amount most what} ({given} given)"

open Evaluation in
/-- Gives the parameters what they are called with; `position` counts from one. -/
def assign (name : String) (least : Nat) (args : ArgumentList Object) (position : Nat) :
    List String → Evaluation (List (Option Object))
  | [] => pure []
  | parameter :: rest => do
    let byPosition := args.values[position - 1]?
    let byName := if parameter.isEmpty then none else args.named.lookup parameter
    if byPosition.isSome && byName.isSome then
      typeError s!"argument for {name}() given by name ('{parameter}') and position ({position})"
    if byPosition.isNone && byName.isNone && position ≤ least then
      typeError s!"{name}() missing required argument '{parameter}' (pos {position})"
    pure (byPosition.or byName :: (← assign name least args (position + 1) rest))

open Evaluation in
/-- Gives parameters with names what they are called with. -/
def takeNamed (name : String) (least byPosition : Nat) (names : List String)
    (args : ArgumentList Object) : Evaluation (List (Option Object)) := do
  let given := args.values.length + args.named.length
  if names.length < given then
    typeError (namedMessage name least names.length given args.values.length)
  if byPosition < args.values.length then
    if byPosition = 0 then typeError s!"{name}() takes no positional arguments"
    let bound := if least < byPosition then "at most" else "exactly"
    let expected := amount byPosition "positional argument"
    typeError s!"{name}() takes {bound} {expected} ({args.values.length} given)"
  let needed := (names.take least).takeWhile String.isEmpty
  if args.values.length < needed.length then
    let bound := if needed.length < byPosition then "at least" else "exactly"
    let expected := amount needed.length "positional argument"
    typeError s!"{name}() takes {bound} {expected} ({args.values.length} given)"
  let assigned ← assign name least args 1 names
  if let some (other, _) := args.named.find? fun e => !names.contains e.1 || e.1.isEmpty then
    typeError s!"'{other}' is an invalid keyword argument for {name}()"
  pure assigned

open Evaluation in
/-- What a function is called with. `fullName` has the class in front that the function is
a member of. -/
def take (calling : Calling) (fullName name : String) (args : ArgumentList Object) :
    Evaluation (List (Option Object)) := do
  let given := args.values.length
  let refuseNamed : Evaluation Unit :=
    if args.named.isEmpty then pure ()
    else typeError s!"{fullName}() takes no keyword arguments"
  match calling with
  | .nothing =>
    refuseNamed
    if given ≠ 0 then typeError s!"{fullName}() takes no arguments ({given} given)"
    pure []
  | .one =>
    refuseNamed
    if given ≠ 1 then typeError s!"{fullName}() takes exactly one argument ({given} given)"
    pure (args.values.map some)
  | .positional least most =>
    refuseNamed
    if given < least || most < given then typeError (positionalMessage name least most given)
    pure (args.values.map some)
  | .counted least most =>
    refuseNamed
    if given < least || most < given then typeError (countedMessage name least most given)
    pure (args.values.map some)
  | .named least byPosition names => takeNamed name least byPosition names args
  | .written parameters =>
    let all : List SignatureParameter := { name := "self" } :: parameters
    match Signature.bind all { args with values := .none :: args.values } with
    | .ok bound => pure ((bound.drop 1).map fun e => given? e.2)
    | .error e => typeError (e.message fullName)
  | .any => pure (args.values.map some)
where
  /-- The one argument that a parameter gets. -/
  given? : Bound Object → Option Object
    | .given o => some o
    | _ => none

end Calling

end HttpInterface
