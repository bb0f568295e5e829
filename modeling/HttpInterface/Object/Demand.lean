import HttpInterface.Object.Item

/-!
# `HttpInterface.Object.Demand`: what a function asks of its arguments

A function asks for a whole number, a text, or bytes, and says what it was given in their
place.
-/

set_option autoImplicit false

namespace HttpInterface.Evaluation

/-- The argument of a parameter. -/
def argument? (args : List (Option Object)) (i : Nat) : Option Object := (args[i]?).join

/-- The argument of a parameter that has one. -/
def argument (args : List (Option Object)) (i : Nat) : Object := (argument? args i).getD .none

/-- The whole number that an argument has to be. -/
def demandInt (o : Object) : Evaluation Int := do
  match o.int? with
  | some i => pure i
  | none => typeError s!"'{← kindName o}' object cannot be interpreted as an integer"

/-- The number of things that an argument has to be. -/
def demandCount (o : Object) : Evaluation Int := do
  let i ← demandInt o
  if maxPosition < i.natAbs then
    raise "OverflowError" "Python int too large to convert to C ssize_t"
  pure i

/-- The number of things that an argument is, if there is one. -/
def countOr (usual : Int) (o : Option Object) : Evaluation Int :=
  match o with
  | some o => demandCount o
  | none => pure usual

/-- How many things there may be; fewer than none stands for any number. -/
def limitOf (i : Int) : Nat := if i < 0 then maxPosition else i.toNat

/-- The text that an argument has to be; `message` says what is demanded, and the kind of
the argument is put behind it. -/
def demandText (message : String) (o : Object) : Evaluation String := do
  match o.text? with
  | some s => pure s
  | none => typeError s!"{message}, not {← kindName o}"

/-- The text that the argument at a place has to be. -/
def demandTextAt (place : String) (o : Object) : Evaluation String := do
  match o.text? with
  | some s => pure s
  | none =>
    let kind ← if o.isNone then pure "None" else kindName o
    typeError s!"{place} must be str, not {kind}"

/-- A position among the arguments of a search in a row. -/
def positionAt (args : List (Option Object)) (i : Nat) : Evaluation (Option Int) := do
  match argument? args i with
  | none => pure none
  | some o =>
    match o.int? with
    | some position => pure (some position)
    | none => typeError "slice indices must be integers or have an __index__ method"

/-- A bound among the arguments. -/
def boundAt (args : List (Option Object)) (i : Nat) : Evaluation (Option Int) :=
  match argument? args i with
  | some o => sliceBound o
  | none => pure none

/-- A truth value among the arguments, which is given as a number; none stands for no. -/
def flagAt (args : List (Option Object)) (i : Nat) : Evaluation Bool :=
  match argument? args i with
  | some o => do pure ((← demandInt o) != 0)
  | none => pure false

/-- The number of elements of a value. -/
def lengthOf? (o : Object) : Evaluation (Option Nat) := do
  match o, ← cellOf? o with
  | _, some (.iterator _ _) => pure none
  | .fixed (.applied _ _), _ | .fixed (.literal _), _ => pure none
  | _, some (.range start stop step) => pure (some (rangeCount start stop step))
  | _, _ => do pure ((← inside? o).map fun e => e.2.length)

/-- The number of elements of a value that has one. -/
def lengthOf (o : Object) : Evaluation Object := do
  match ← lengthOf? o with
  | some n =>
    if maxPosition < n then
      raise "OverflowError" "Python int too large to convert to C ssize_t"
    pure (.int n)
  | none => typeError s!"object of type '{← kindName o}' has no len()"

/-- The bytes that an argument has to be. -/
def demandBytes (o : Object) : Evaluation Bytes := do
  match ← bytesOf? o with
  | some bs => pure bs
  | none => typeError s!"a bytes-like object is required, not '{← kindName o}'"

/-- The number that an argument has to be, as a double. -/
def demandReal (o : Object) : Evaluation Float := do
  match o.number?.bind Number.toFloat? with
  | some x =>
    if (o.number?.map Number.exceedsFloat).getD false then
      raise "OverflowError" "int too large to convert to float"
    pure x
  | none => typeError s!"must be real number, not {← kindName o}"

end HttpInterface.Evaluation
