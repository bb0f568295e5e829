import HttpInterface.TypeExpr.Build

/-!
# `HttpInterface.TypeExpr.Apply`: types with arguments

A generic form takes as many arguments as it asks for. The built-in containers take
any number, and a class takes one for each of its type variables. A type that has
its arguments, but leaves type variables open in them, takes arguments for these.
-/

set_option autoImplicit false

namespace HttpInterface

namespace TypeExpr

/-! ### Type variables -/

/-- The type variables that a type leaves open. -/
def openVariables (t : TypeExpr) : List String :=
  t.typeVariables.eraseDups

mutual

/-- The type with other types in the place of its type variables. -/
def substitute (value : String → TypeExpr) : TypeExpr → Except TypeExprError TypeExpr
  | .typeVar name => .ok (value name)
  | .applied head args => do pure (.applied head (← substituteAll value args))
  | .unpacked t => do pure (.unpacked (← substitute value t))
  | .union members => do unionOf (← substituteAll value members)
  | .bars members => do barAll (← substituteAll value members)
  | .annotated base markers => do mark (← substitute value base) markers
  | t => .ok t

/-- The types with other types in the place of their type variables. -/
def substituteAll (value : String → TypeExpr) :
    List TypeExpr → Except TypeExprError (List TypeExpr)
  | [] => .ok []
  | t :: rest => do
    let u ← substitute value t
    let us ← substituteAll value rest
    pure (u :: us)

end

/-- The type with arguments in the place of the type variables that it leaves
open. -/
def fill (t : TypeExpr) (args : List TypeExpr) : Except TypeExprError TypeExpr := do
  let variablesLeft := t.openVariables
  if variablesLeft.isEmpty then throw (.noMoreArguments t.shown)
  let args ← if t.isForm then args.mapM asArgument else pure args
  if args.length ≠ variablesLeft.length then
    throw (.argumentCount t.shown args.length variablesLeft.length false)
  let types ← args.mapM (asType .argument)
  t.substitute fun name => ((variablesLeft.zip types).lookup name).getD (.typeVar name)

/-! ### Forms and classes -/

/-- The built-in classes that take arguments. -/
def containerNames : List String :=
  ["list", "dict", "tuple", "set", "frozenset", "type", "enumerate", "BaseExceptionGroup",
   "ExceptionGroup"]

/-- The types between the brackets behind a type: a tuple stands for several. -/
def arguments : TypeExpr → List TypeExpr
  | .tuple items => items
  | t => [t]

/-- How many arguments a generic form of a class takes. -/
def arity (head : TypeHead) : Nat :=
  ((ClassForm.find? head.name).map ClassForm.arity).getD 1

/-- The dots that stand for more of the same. -/
def isDots : TypeExpr → Bool
  | .constant .ellipsis => true
  | _ => false

/-- The form of a tuple with the types of its elements: dots say that there are any number of
elements. -/
def applyTuple (head : TypeHead) (args : List TypeExpr) : Except TypeExprError TypeExpr := do
  let endsInDots := 2 ≤ args.length && (args.getLast?.map isDots).getD false
  let types := if endsInDots then args.dropLast else args
  let types ← types.mapM (asType .element)
  pure (.applied head (if endsInDots then types ++ [.constant .ellipsis] else types))

/-- The form of a function with the types of its arguments and of its result. -/
def applyCallable (head : TypeHead) (index : TypeExpr) : Except TypeExprError TypeExpr := do
  match index with
  | .tuple [args, result] =>
    let result ← if head.isContainer then pure result else result.asType .result
    match args with
    | .list args | .tuple args =>
      let args ← if head.isContainer then pure args else args.mapM asArgument
      pure (.applied head (args ++ [result]))
    | args =>
      if head.isContainer && !args.isDots then
        throw (.raised "TypeError" ("Expected a list of types, an ellipsis, ParamSpec, or " ++
          s!"Concatenate. Got {args.valueText}"))
      pure (.applied head [← args.asArgument, result])
  | _ => throw (.raised "TypeError" "Callable must be used as Callable[[arg, ...], result].")

/-- The parameters of a function, some of which are given and the others stand in the last
place. -/
def applyConcatenate (head : TypeHead) (args : List TypeExpr) :
    Except TypeExprError TypeExpr := do
  match args.reverse with
  | [] => throw (.raised "TypeError" "Cannot take a Concatenate of no types.")
  | last :: front =>
    if !last.isDots then
      throw (.raised "TypeError"
        "The last parameter to Concatenate should be a ParamSpec variable or ellipsis.")
    pure (.applied head ((← front.reverse.mapM (asType .concatenated)) ++ [last]))

/-- The constants of a literal type, if all of them are constants; those of a literal type among
them are taken one by one. -/
def constants? : List TypeExpr → Option (List Constant)
  | [] => some []
  | .none :: rest => (constants? rest).map (.null :: ·)
  | .text s :: rest => (constants? rest).map (.text s :: ·)
  | .constant c :: rest => (constants? rest).map (c :: ·)
  | .literal cs :: rest => (constants? rest).map (cs ++ ·)
  | _ => Option.none

/-- A special form with arguments. -/
def applySpecial (head : TypeHead) (index : TypeExpr) : Except TypeExprError TypeExpr := do
  if TypeHead.soleForms.contains head.name then
    throw (.raised "TypeError" s!"{shown (.bare head)} is not subscriptable")
  match head.name with
  | "Optional" => unionOf [← index.asType .optional, .noneType]
  | "Union" =>
    if index.arguments.isEmpty then throw .noChoice
    unionOf index.arguments
  | "Literal" =>
    match constants? index.arguments with
    | some cs => pure (literalOf cs)
    | Option.none => pure (.applied head index.arguments)
  | "Concatenate" => applyConcatenate head index.arguments
  | name =>
    let demand := (singleForms.lookup name).getD ""
    let t ← index.asType (.sole name demand)
    pure (if name = "Unpack" then .unpacked t else .applied head [t])

/-- A generic form with arguments. -/
def applyForm (head : TypeHead) (index : TypeExpr) : Except TypeExprError TypeExpr := do
  if head.isSpecial then applySpecial head index
  else if head.name = "Tuple" then applyTuple head index.arguments
  else if head.name = "Callable" then applyCallable head index
  else
    let args ← index.arguments.mapM (asType .argument)
    if arity head = 0 then throw (.noMoreArguments (shown (.bare head)))
    if args.length ≠ arity head then
      throw (.argumentCount (shown (.bare head)) args.length (arity head) false)
    pure (.applied head args)

/-- The form from which generic classes are derived, with the type variables of a class. -/
def applyGeneric (name : String) (args : List TypeExpr) : Except TypeExprError TypeExpr := do
  let isVariable : TypeExpr → Bool
    | .typeVar _ => true
    | _ => false
  if args.isEmpty then
    throw (.raised "TypeError" s!"Parameter list to {name}[...] cannot be empty")
  if !args.all isVariable then
    throw (.raised "TypeError" (s!"Parameters to {name}[...] must all be type variables or " ++
      "parameter specification variables."))
  if (distinct args).length < args.length then
    throw (.raised "TypeError" s!"Parameters to {name}[...] must all be unique")
  pure (.applied (.ofForm name name) args)

/-- A type with notes. -/
def applyAnnotated (index : TypeExpr) : Except TypeExprError TypeExpr := do
  match index with
  | .tuple (base :: first :: rest) =>
    let note : TypeExpr → Marker
      | .text s => .note s
      | t => .value t.valueText
    mark base ((first :: rest).map note)
  | _ => throw .unmarked

/-- The classes of other packages that take no arguments, though others of their packages do. -/
def closedClasses : List String :=
  ["Hashable", "Sized", "ByteString", "UserDict", "UserList", "UserString", "ContextDecorator",
   "ExitStack", "suppress", "RegexFlag", "Scanner", "error"]

/-- A class with arguments. -/
def applyClass (c : ClassName) (args : List TypeExpr) : Except TypeExprError TypeExpr := do
  let head : TypeHead :=
    { package := c.package
      name := c.longName
      origin := c.name
      identity := c.identity
      claim := c.claim }
  if c.package.isEmpty && containerNames.contains c.name then
    return .applied head args
  if !c.package.isEmpty && head.isContainer && !closedClasses.contains c.name then
    return .applied head args
  match c.typeVariables with
  | Option.none => throw (.notSubscriptable c.name)
  | some names =>
    let args ← args.mapM asArgument
    if names.isEmpty then throw (.noMoreArguments (classText c))
    if args.length ≠ names.length then
      throw (.argumentCount (classText c) args.length names.length true)
    pure (.applied head args)

/-- A type with arguments between brackets. -/
def apply (head index : TypeExpr) : Except TypeExprError TypeExpr :=
  match head with
  | .bare form => applyForm form index
  | .cls c =>
    if c.package = "typing" && c.name = "Annotated" then applyAnnotated index
    else if c.package = "typing" && barredClasses.contains c.name then
      applyGeneric c.name index.arguments
    else if c.package = "collections.abc" && c.name = "Callable" then
      applyCallable { package := c.package, name := c.name, origin := c.name } index
    else applyClass c index.arguments
  | .noneType => .error (.notSubscriptable head.shown)
  | .applied _ _ | .union _ | .bars _ | .literal _ | .annotated _ _ => head.fill index.arguments
  | _ => .error (.kindNotSubscriptable head.kindName)

end TypeExpr

end HttpInterface
