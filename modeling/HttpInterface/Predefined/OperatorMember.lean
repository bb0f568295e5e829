import HttpInterface.Object.Formatting
import HttpInterface.Number.Rounding
import HttpInterface.Predefined.CollectionMember

/-!
# `HttpInterface.Predefined.OperatorMember`: the members behind operators

Every operator can be called as a member of its first operand. A member says that it does
not know a second operand instead of failing.
-/

set_option autoImplicit false

namespace HttpInterface.Predefined

open Evaluation

/-- The operator that a member stands behind, and whether its operands are exchanged. -/
def binaryOf? (name : String) : Option (BinaryOperator × Bool) :=
  binaryMembers.findSome? fun (word, operator) =>
    if name = "__" ++ word ++ "__" then some (operator, false)
    else if name = "__r" ++ word ++ "__" then some (operator, true)
    else none

/-! ### Numbers -/

/-- The number that is the inverse of another one modulo a third, by the steps of
division; `fuel` bounds them. -/
def inverseFrom (fuel : Nat) (r s x y : Int) : Option Int :=
  match fuel with
  | 0 => none
  | fuel + 1 =>
    if s = 0 then if r = 1 then some x else none
    else
      let quotient := Int.fdiv r s
      inverseFrom fuel s (r - quotient * s) y (x - quotient * y)

/-- A power modulo a number, by squaring; `fuel` bounds the bits of the exponent. -/
def powerModulo (fuel : Nat) (base exponent modulus product : Nat) : Nat :=
  match fuel with
  | 0 => product
  | fuel + 1 =>
    if exponent = 0 then product
    else
      let product := if exponent % 2 = 1 then product * base % modulus else product
      powerModulo fuel (base * base % modulus) (exponent / 2) modulus product

/-- A power of whole numbers modulo a third. -/
def wholePowerModulo (base exponent modulus : Int) : Evaluation Object := do
  if modulus = 0 then valueError "pow() 3rd argument cannot be 0"
  let m := modulus.natAbs
  let base ←
    if 0 ≤ exponent then pure base
    else
      let start := Int.emod base m
      match inverseFrom (2 * Nat.log2 m + 10) start m 1 0 with
      | some inverse => pure inverse
      | none => valueError "base is not invertible for the given modulus"
  let start := (Int.emod base m).toNat
  let power := powerModulo (Nat.log2 exponent.natAbs + 1) start exponent.natAbs m (1 % m)
  pure (.int (Int.fmod power modulus))

/-- Quotient and rest of two values. -/
def divideWithRest (a b : Object) : Evaluation Object := do
  let refuse : Evaluation Object := do
    throw (.operands "divmod()" (← kindName a) (← kindName b))
  match a.number?, b.number? with
  | some m, some n =>
    let words := ("integer division or modulo by zero", "float divmod()")
    match ← ofNumberResult (m.divMod? words n) with
    | some (quotient, rest) => pure (.tuple [.number quotient, .number rest])
    | none => refuse
  | _, _ => refuse

/-! ### Sizes and hashes -/

/-- The size of a number. -/
def absolute (o : Object) : Evaluation Object := do
  match o.number? with
  | some n => pure (.number n.magnitude)
  | none => typeError s!"bad operand type for abs(): '{← kindName o}'"

/-- The hash of a value. Where none is known, zero stands for it. -/
def hashOf (o : Object) : Evaluation Object := do
  checkHashable o
  let t ← match ← cellOf? o with
    | some (.range start stop step) => pure (rangeKey start stop step)
    | _ => frozen o
  pure (.int (t.hash?.getD 0))
where
  /-- What a range is told apart by: how many numbers it has, the first, and the step. -/
  rangeKey (start stop step : Int) : TypeExpr :=
    let count := rangeCount start stop step
    let whole (i : Int) : TypeExpr := .constant (.int i)
    let first := if count = 0 then .none else whole start
    .tuple [whole count, first, if count < 2 then .none else whole step]

/-- Both values are compared by the class of the first one. -/
def areAlike (a b : Object) : Evaluation Bool := do
  match a.number?, b.number? with
  | some m, some n =>
    pure (match m, n with
      | .whole _, .whole _ | .real _, .whole _ | .real _, .real _ | .complex _ _, _ => true
      | _, _ => false)
  | none, none => do
    if (← set? a).isSome && (← set? b).isSome then return true
    pure ((← kindName a) == (← kindName b))
  | _, _ => pure false

/-- What a comparison says as a member of its first operand. The items of a row have to know
it. -/
def compareAsMember (engine : Engine) (test : Comparison) (a b : Object) : Evaluation Object := do
  if ← areAlike a b then
    if ["list", "tuple", "slice"].contains (← kindName a) then
      return .bool (← compare engine test a b)
    match ← attempt? "TypeError" (compare engine test a b) with
    | some holds => pure (.bool holds)
    | none => pure notImplemented
  else if test = .equal || test = .unequal then
    if ← identical a b then pure (.bool (test = .equal)) else pure notImplemented
  else pure notImplemented

/-- What an operator says as a member of its first operand. -/
def combineAsMember (engine : Engine) (operator : BinaryOperator) (isExchanged : Bool)
    (o other : Object) : Evaluation Object := do
  let (a, b) := if isExchanged then (other, o) else (o, other)
  let isRow := (← row? o).isSome
  if isRow && isExchanged && (← kindName o) ≠ (← kindName other) then pure notImplemented
  else if isRow then combine engine operator a b
  else if o.number?.isSome && !(← areAlike o other) then pure notImplemented
  else do pure ((← attempt? "TypeError" (combine engine operator a b)).getD notImplemented)

/-- The next element of an iterator. -/
def nextOf (engine : Engine) (o : Object) : Evaluation Object := do
  match ← cellOf? o with
  | some (.iterator _ _) =>
    match ← engine.next? o with
    | some next => pure next
    | none => raise "StopIteration" ""
  | _ => typeError s!"'{← kindName o}' object is not an iterator"

/-! ### Members that change a value in its place -/

/-- The number that is small enough for a position. -/
def demandPosition (o : Object) : Evaluation Int := do
  let i ← demandInt o
  if maxPosition < i.natAbs then raise "OverflowError" noPositionMessage
  pure i

/-- What a member behind an operator does in the place of its first operand, if it is one
that does. -/
def changeInPlace? (engine : Engine) (o : Object) (name : String) (other : Object) :
    Evaluation (Option Object) := do
  let onSets : List (String × BinaryOperator) :=
    [("__ior__", .bar), ("__iand__", .ampersand), ("__isub__", .minus), ("__ixor__", .caret)]
  match name, o, ← cellOf? o with
  | "__iadd__", .stored place, some (.list items) => do
    write place (.list (items ++ (← elements engine other).toArray))
    pure (some o)
  | "__iadd__", .stored place, some (.byteArray bs) =>
    match ← bytesOf? other with
    | some more =>
      write place (.byteArray (bs ++ more))
      pure (some o)
    | none => typeError s!"can't concat {← kindName other} to bytearray"
  | "__imul__", .stored place, some (.list items) => do
    write place (.list (← repeatItems items.toList (← demandPosition other)).toArray)
    pure (some o)
  | "__imul__", .stored place, some (.byteArray bs) => do
    write place (.byteArray (← repeatItems bs (← demandPosition other)))
    pure (some o)
  | "__ior__", .stored place, some (.dict entries) => do
    let more ← entriesFrom engine other
    write place (.dict (← more.foldlM (fun made e => Evaluation.setEntry made e.1 e.2) entries))
    pure (some o)
  | name, .stored place, some (.set items false) =>
    match onSets.lookup name, ← set? other with
    | some operator, some (others, _) => do
      write place (.set (← setItems (← combineItems operator items others)) false)
      pure (some o)
    | some _, none => pure (some notImplemented)
    | none, _ => pure none
  | _, _, _ => pure none

/-! ### Calls -/

/-- How many arguments a member behind an operator takes, at least and at most. -/
def operatorArity (name : String) : Nat × Nat :=
  let unary :=
    ["__pos__", "__neg__", "__invert__", "__abs__", "__bool__", "__int__", "__float__",
     "__index__", "__len__", "__hash__", "__repr__", "__str__", "__iter__", "__next__"]
  if unary.contains name then (0, 0)
  else if name = "__setitem__" || name = "__setattr__" then (2, 2)
  else if name = "__pow__" || name = "__rpow__" then (1, 2)
  else (1, 1)

/-- Checks how many arguments a member behind an operator gets. -/
def checkArity (name : String) (isRow : Bool) (given : Nat) : Evaluation Unit := do
  let (least, most) := operatorArity name
  let isRepeating := isRow && ["__mul__", "__rmul__", "__imul__"].contains name
  let gap := if least + 1 < most + most || isRepeating then " " else ""
  let bound := Calling.boundWords least most given
  let expected := bound ++ Calling.amount (Calling.nearest least most given) "argument"
  if given < least || most < given then typeError s!"{gap}expected {expected}, got {given}"

/-- What the member behind powers makes of a third number. -/
def powerAsMember (engine : Engine) (isExchanged : Bool) (o other modulus : Object) :
    Evaluation Object := do
  if modulus.isNone then combineAsMember engine .power isExchanged o other
  else
    let (a, b) := if isExchanged then (other, o) else (o, other)
    match o.number?, a.int?, b.int?, modulus.int? with
    | some (.whole _), some i, some j, some m => wholePowerModulo i j m
    | some (.whole _), _, _, _ => pure notImplemented
    | some (.real _), _, _, _ =>
      typeError "pow() 3rd argument not allowed unless all arguments are integers"
    | _, _, _, _ =>
      if other.number?.isSome then valueError "complex modulo"
      pure notImplemented

/-- What a member behind an operator does with a value and its arguments. -/
def callOperator (engine : Engine) (o : Object) (name : String) (args : List Object) :
    Evaluation Object := do
  if name = "__init__" then return .none
  let row? ← row? o
  checkArity name row?.isSome args.length
  let first := args.headD .none
  if let some test := comparisonMembers.lookup name then
    return ← compareAsMember engine test o first
  if let some operator := unaryMembers.lookup name then return ← change operator o
  if let some changed ← changeInPlace? engine o name first then return changed
  if let some (operator, isExchanged) := binaryOf? name then
    match row?, operator with
    | some row, .times => return ← repeatRow row (← demandInt first)
    | _, .power => return ← powerAsMember engine isExchanged o first (args.getD 1 .none)
    | _, _ => return ← combineAsMember engine operator isExchanged o first
  match name with
  | "__abs__" => absolute o
  | "__bool__" => .bool <$> isTrue o
  | "__int__" | "__index__" =>
    match o.number? with
    | some (.real x) => .int <$> ofNumberResult (Number.wholePart x)
    | _ => .int <$> demandInt o
  | "__float__" => .float <$> demandReal o
  | "__len__" => lengthOf o
  | "__hash__" => hashOf o
  | "__repr__" => .text <$> shownText o
  | "__str__" => .text <$> plainText o
  | "__iter__" => iterator o
  | "__next__" => nextOf engine o
  | "__contains__" => .bool <$> isElement engine first o
  | "__getitem__" => subscript o first
  | "__setitem__" =>
    setItem o first (args.getD 1 .none)
    pure .none
  | "__delitem__" =>
    removeItem o first
    pure .none
  | "__getattribute__" => do
    memberOf o (← demandText "attribute name must be string" first)
  | "__divmod__" => divideAsMember o first
  | "__rdivmod__" => divideAsMember first o
  | _ => throw (.noMember (← kindName o) name)
where
  /-- Quotient and rest, if the values are numbers. -/
  divideAsMember (a b : Object) : Evaluation Object := do
    match a.number?, b.number? with
    | some _, some _ => divideWithRest a b
    | _, _ => pure notImplemented

end HttpInterface.Predefined
