/-!
# `HttpInterface.Signature`: parameters and the arguments of a call

A function takes arguments by position and by name. `bind` gives every parameter
what a call gives it, or says why the call does not fit: arguments by name are looked
at first, then too many arguments by position, then parameters that get nothing.
-/

set_option autoImplicit false

namespace HttpInterface

/-- How a parameter takes arguments. -/
inductive ParameterKind where
  /-- One argument, by position or by name. -/
  | normal
  /-- One argument, by position only. -/
  | positional
  /-- One argument, by name only. -/
  | keyword
  /-- Any number of arguments by position. -/
  | restPositional
  /-- Any number of arguments by name. -/
  | restKeyword
  deriving DecidableEq, Repr

namespace ParameterKind

/-- A parameter of this kind takes any number of arguments. -/
def isVariadic : ParameterKind → Bool
  | restPositional | restKeyword => true
  | _ => false

/-- A parameter of this kind takes one argument by position. -/
def isPositional : ParameterKind → Bool
  | normal | positional => true
  | _ => false

/-- A parameter of this kind takes one argument by name. -/
def isByName : ParameterKind → Bool
  | normal | keyword => true
  | _ => false

/-- The kinds in the order in which the types of parameters are looked up. -/
def lookUpOrder : List ParameterKind :=
  [normal, positional, restPositional, keyword, restKeyword]

end ParameterKind

/-- A parameter as a call sees it. -/
structure SignatureParameter where
  name : String
  kind : ParameterKind := .normal
  /-- The parameter has a value of its own if it is given none. -/
  isOptional : Bool := false
  deriving DecidableEq, Repr

/-- The arguments of a call. -/
structure ArgumentList (α : Type) where
  values : List α := []
  named : List (String × α) := []

/-- What a call gives a parameter. -/
inductive Bound (α : Type) where
  | given (value : α)
  /-- Nothing, so that its own value counts. -/
  | omitted
  /-- All further arguments by position. -/
  | rest (values : List α)
  /-- All further arguments by name. -/
  | restNamed (entries : List (String × α))

/-- Why a call does not fit a function. -/
inductive BindingError where
  /-- More arguments by position than parameters; `keywords` of the arguments by name
  fit a parameter that takes no other ones. -/
  | tooMany (least most given keywords : Nat)
  /-- Parameters that get nothing. -/
  | missing (byName : Bool) (names : List String)
  /-- No parameter has the name. -/
  | unexpected (name : String)
  /-- Parameters by position only that are given by name. -/
  | byPositionOnly (names : List String)
  /-- A parameter is given twice. -/
  | repeated (name : String)
  deriving DecidableEq, Repr

/-- A plural ending, unless there is one. -/
def pluralEnding (count : Nat) : String :=
  if count = 1 then "" else "s"

/-- Names in a row, each between quotes. -/
def quotedNames (names : List String) : String :=
  let shown := names.map fun name => "'" ++ name ++ "'"
  match shown.reverse with
  | [] => ""
  | [one] => one
  | [last, first] => first ++ " and " ++ last
  | last :: others => ", ".intercalate others.reverse ++ ", and " ++ last

/-- The message of a binding error of a function. -/
def BindingError.message (functionName : String) : BindingError → String
  | tooMany least most given keywords =>
    let taken := if least < most then s!"from {least} to {most}" else s!"{most}"
    let plural := if least < most then "s" else pluralEnding most
    let byName :=
      if keywords = 0 then ""
      else s!" positional argument{pluralEnding given} (and {keywords} keyword-only " ++
        s!"argument{pluralEnding keywords})"
    let verb := if given = 1 && keywords = 0 then "was" else "were"
    s!"{functionName}() takes {taken} positional argument{plural} but {given}{byName} " ++
      s!"{verb} given"
  | missing byName names =>
    let kind := if byName then "keyword-only" else "positional"
    s!"{functionName}() missing {names.length} required {kind} " ++
      s!"argument{pluralEnding names.length}: {quotedNames names}"
  | unexpected name => s!"{functionName}() got an unexpected keyword argument '{name}'"
  | byPositionOnly names =>
    s!"{functionName}() got some positional-only arguments passed as keyword arguments: " ++
      "'" ++ ", ".intercalate names ++ "'"
  | repeated name => s!"{functionName}() got multiple values for argument '{name}'"

namespace Signature

variable {α : Type}

/-- A list of parameters. -/
abbrev Parameters := List SignatureParameter

/-- The arguments by name that fit a parameter, and those that do not. -/
def splitNamed (parameters : Parameters) (named : List (String × α)) :
    List (String × α) × List (String × α) :=
  named.partition fun e => parameters.any fun p => p.kind.isByName && p.name == e.1

/-- Checks the arguments by name; `taken` are the parameters given by position. -/
def checkNamed (parameters : Parameters) (taken : List String) (named : List (String × α)) :
    Except BindingError Unit := do
  let takesAll := parameters.any fun p => p.kind = .restKeyword
  let byPosition := (named.map Prod.fst).filter fun name =>
    parameters.any fun p => p.kind = .positional && p.name == name
  named.forM fun e =>
    if parameters.any fun p => p.kind.isByName && p.name == e.1 then
      if taken.contains e.1 then .error (.repeated e.1) else .ok ()
    else if takesAll then .ok ()
    else if !byPosition.isEmpty then .error (.byPositionOnly byPosition)
    else .error (.unexpected e.1)

/-- What a call gives every parameter, in their order. -/
def bind (parameters : Parameters) (args : ArgumentList α) :
    Except BindingError (List (SignatureParameter × Bound α)) := do
  let byPosition := parameters.filter fun p => p.kind.isPositional
  let given := (byPosition.map SignatureParameter.name).zip args.values
  checkNamed parameters (given.map Prod.fst) args.named
  let (fitting, further) := splitNamed parameters args.named
  let takesRest := parameters.any fun p => p.kind = .restPositional
  if byPosition.length < args.values.length && !takesRest then
    let least := (byPosition.filter fun p => !p.isOptional).length
    let keywords := fitting.filter fun e =>
      parameters.any fun p => p.kind = .keyword && p.name == e.1
    throw (.tooMany least byPosition.length args.values.length keywords.length)
  let value? (name : String) : Option α := (given.lookup name).or (fitting.lookup name)
  let lacks (p : SignatureParameter) : Bool := !p.isOptional && (value? p.name).isNone
  let names (ps : Parameters) : List String := ps.map SignatureParameter.name
  let missing := byPosition.filter lacks
  if !missing.isEmpty then throw (.missing false (names missing))
  let missing := parameters.filter fun p => p.kind = .keyword && lacks p
  if !missing.isEmpty then throw (.missing true (names missing))
  pure (parameters.map fun p =>
    match p.kind, value? p.name with
    | .restPositional, _ => (p, .rest (args.values.drop byPosition.length))
    | .restKeyword, _ => (p, .restNamed further)
    | _, some value => (p, .given value)
    | _, none => (p, .omitted))

end Signature

end HttpInterface
