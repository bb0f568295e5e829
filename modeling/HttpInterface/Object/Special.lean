import HttpInterface.Object.Class

/-!
# `HttpInterface.Object.Special`: operations that a class is given

What an operator or a predefined function does with a value is decided by members of its
class that have special names. The class of a value that was made in an evaluation may be
given such members, and then they are called. A value of a class that is derived from a
predefined one holds a value of that one, which does all that its own class leaves open.
-/

set_option autoImplicit false

namespace HttpInterface.Evaluation

/-- The members behind operators between two values. -/
def binaryMembers : List (String × BinaryOperator) :=
  [("add", .plus), ("sub", .minus), ("mul", .times), ("truediv", .divide),
   ("floordiv", .floorDivide), ("mod", .remainder), ("pow", .power), ("lshift", .shiftLeft),
   ("rshift", .shiftRight), ("and", .ampersand), ("or", .bar), ("xor", .caret),
   ("matmul", .matrixTimes)]

/-- The members behind comparisons. -/
def comparisonMembers : List (String × Comparison) :=
  [("__eq__", .equal), ("__ne__", .unequal), ("__lt__", .less), ("__le__", .lessOrEqual),
   ("__gt__", .greater), ("__ge__", .greaterOrEqual)]

/-- The members behind operators in front of a value. -/
def unaryMembers : List (String × UnaryOperator) :=
  [("__pos__", .plus), ("__neg__", .minus), ("__invert__", .complement)]

/-- The name under which a value of a derived class holds a value of a predefined one. -/
def heldName : String := ".value"

/-- The name under which the text of a value is kept, and that under which the text that a
reader sees is kept. -/
def textNames : String × String := (".shown", ".plain")

/-- The name is one that only the evaluation itself uses. -/
def isHiddenName (name : String) : Bool := name.startsWith "."

/-- The value of a predefined class that an object is or holds. -/
def plain (o : Object) : Evaluation Object := do
  match ← cellOf? o with
  | some (.instance _ attributes) => pure ((attributes.lookup heldName).getD o)
  | _ => pure o

/-- A member with a special name that the class of a value was given, with the class. -/
def specialMember? (o : Object) (name : String) : Evaluation (Option (Object × Object)) := do
  match ← cellOf? o with
  | some (.instance cls _) | some (.error cls _ _ _) =>
    pure ((← inheritedMember? cls name).map fun e => (cls, e.2))
  | _ => pure none

/-- The class of a value was given a member with a special name. -/
def hasSpecial (o : Object) (name : String) : Evaluation Bool := do
  pure (← specialMember? o name).isSome

/-- What a member with a special name makes, if the class of the value was given one. -/
def special? (engine : Engine) (o : Object) (name : String) (args : List Object) :
    Evaluation (Option Object) := do
  match ← specialMember? o name with
  | some (cls, f) =>
    if f.isNone then pure none
    else some <$> engine.call (← bindFunction o cls f) { values := args }
  | none => pure none

/-- The object says that an operation does not know its operands. -/
def isNotImplemented : Object → Bool
  | .fixed (.other { kind := "NotImplementedType", .. }) => true
  | _ => false

/-- What the first of some members makes that knows the operands. -/
def firstKnown? (engine : Engine) : List (Object × String × Object) → Evaluation (Option Object)
  | [] => pure none
  | (o, name, other) :: rest => do
    match ← special? engine o name [other] with
    | some result =>
      if isNotImplemented result then firstKnown? engine rest else pure (some result)
    | none => firstKnown? engine rest

/-- What an operator makes of two values if their classes decide it. -/
def combineSpecial? (engine : Engine) (operator : BinaryOperator) (a b : Object) :
    Evaluation (Option Object) := do
  match binaryMembers.find? fun e => e.2 = operator with
  | some (word, _) =>
    firstKnown? engine [(a, "__" ++ word ++ "__", b), (b, "__r" ++ word ++ "__", a)]
  | none => pure none

/-- What an operator in front of a value makes if its class decides it. -/
def changeSpecial? (engine : Engine) (operator : UnaryOperator) (o : Object) :
    Evaluation (Option Object) := do
  match unaryMembers.find? fun e => e.2 = operator with
  | some (name, _) => special? engine o name []
  | none => pure none

/-- The comparison with its operands exchanged. -/
def mirrored : Comparison → Comparison
  | .less => .greater
  | .lessOrEqual => .greaterOrEqual
  | .greater => .less
  | .greaterOrEqual => .lessOrEqual
  | test => test

/-- What a comparison makes of two values if their classes decide it. -/
def compareSpecial? (engine : Engine) (test : Comparison) (a b : Object) :
    Evaluation (Option Object) := do
  let nameOf (test : Comparison) : String :=
    ((comparisonMembers.find? fun e => e.2 = test).map Prod.fst).getD ""
  match test with
  | .elementOf | .notElementOf => special? engine b "__contains__" [a]
  | .identical | .distinct => pure none
  | test => firstKnown? engine [(a, nameOf test, b), (b, nameOf (mirrored test), a)]

end HttpInterface.Evaluation
