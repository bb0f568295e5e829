import HttpInterface.Format.Percent
import HttpInterface.Object.Item

/-!
# `HttpInterface.Object.Arithmetic`: operators

Numbers are computed with, sequences joined and repeated, sets and dictionaries put
together, and types made members of a choice. The marks of a text or of bytes are filled
with values by the sign of the remainder. Whatever two values do not know is an error
that names the operator and the kinds of both.
-/

set_option autoImplicit false

namespace HttpInterface

/-- The class of a number error. -/
def NumberError.className : NumberError → String
  | zeroDivision _ => "ZeroDivisionError"
  | tooLarge _ => "OverflowError"
  | badOperand _ => "ValueError"

/-- The sign of an operator in an error. -/
def BinaryOperator.errorSign : BinaryOperator → String
  | .power => "** or pow()"
  | operator => operator.sign

namespace Number

/-- An operator on whole numbers that is one on their bits. -/
def combineWhole? (operator : BinaryOperator) (i j : Int) : Except NumberError (Option Int) := do
  match operator with
  | .bar => pure (some (combineBits Nat.lor i j))
  | .ampersand => pure (some (combineBits Nat.land i j))
  | .caret => pure (some (combineBits Nat.xor i j))
  | .shiftLeft => pure (some (← shiftUp i j))
  | .shiftRight => pure (some (← shiftDown i j))
  | _ => pure none

/-- An operator on numbers, if they know it. -/
def combine? (operator : BinaryOperator) (a b : Number) : Except NumberError (Option Number) := do
  match operator with
  | .plus => pure (some (← add a b))
  | .minus => pure (some (← subtract a b))
  | .times => pure (some (← multiply a b))
  | .divide => pure (some (← divide a b))
  | .power => pure (some (← power a b))
  | .floorDivide =>
    let words := ("integer division or modulo by zero", "float floor division by zero")
    pure ((← divMod? words a b).map Prod.fst)
  | .remainder =>
    pure ((← divMod? ("integer modulo by zero", "float modulo") a b).map Prod.snd)
  | operator =>
    match a, b with
    | whole i, whole j => pure ((← combineWhole? operator i j).map whole)
    | _, _ => pure none

end Number

namespace Evaluation

/-- The result of a computation. -/
def ofNumberResult {α : Type} (r : Except NumberError α) : Evaluation α :=
  match r with
  | .ok n => pure n
  | .error e => raise e.className e.message

/-- The result of a layout. -/
def ofLayoutResult {α : Type} (r : Except Format.LayoutError α) : Evaluation α :=
  match r with
  | .ok n => pure n
  | .error e => raise e.className e.message

/-- What can go wrong with types may go wrong in an evaluation. -/
def ofTypeResult {α : Type} (r : Except TypeExprError α) : Evaluation α :=
  match r with
  | .ok n => pure n
  | .error e => throw e

/-! ### Numbers -/

/-- Both objects are truth values. -/
def areTruthValues : Object → Object → Bool
  | .fixed (.constant (.bool _)), .fixed (.constant (.bool _)) => true
  | _, _ => false

/-- An operator on numbers, if both objects are some that know it. The bits of truth values
are truth values. -/
def combineNumbers? (operator : BinaryOperator) (a b : Object) : Evaluation (Option Object) := do
  match a.number?, b.number? with
  | some m, some n =>
    match ← ofNumberResult (m.combine? operator n) with
    | some n =>
      if areTruthValues a b && [.bar, .ampersand, .caret].contains operator then
        pure (some (.bool n.isTrue))
      else pure (some (.number n))
    | none => pure none
  | _, _ => pure none

/-! ### Sequences -/

/-- A sequence of some kind. -/
inductive Row where
  | text (cs : List Char)
  | bytes (bs : Bytes)
  | byteArray (bs : Bytes)
  | tuple (items : List Object)
  | list (items : List Object)

/-- The sequence that an object is. -/
def row? (o : Object) : Evaluation (Option Row) := do
  match o, ← cellOf? o with
  | .fixed (.text s), _ => pure (some (.text s.toList))
  | .fixed (.constant (.bytes bs)), _ => pure (some (.bytes bs))
  | .tuple items, _ => pure (some (.tuple items))
  | _, some (.list items) => pure (some (.list items.toList))
  | _, some (.byteArray bs) => pure (some (.byteArray bs))
  | _, _ => pure none

/-- A sequence as an object. -/
def ofRow : Row → Evaluation Object
  | .text cs => pure (.text (String.ofList cs))
  | .bytes bs => pure (.bytes bs)
  | .byteArray bs => make (.byteArray bs)
  | .tuple items => pure (.tuple items)
  | .list items => makeList items

/-- Two sequences of one kind behind each other. -/
def joinRows? : Row → Row → Option Row
  | .text cs, .text ds => some (.text (cs ++ ds))
  | .bytes bs, .bytes cs | .bytes bs, .byteArray cs => some (.bytes (bs ++ cs))
  | .byteArray bs, .bytes cs | .byteArray bs, .byteArray cs => some (.byteArray (bs ++ cs))
  | .tuple items, .tuple others => some (.tuple (items ++ others))
  | .list items, .list others => some (.list (items ++ others))
  | _, _ => none

/-- The most items that a repeated sequence may have. -/
def maxRepeated : Nat := 2000000

/-- The items some times over. -/
def repeatItems {α : Type} (items : List α) (times : Int) : Evaluation (List α) :=
  if times ≤ 0 || items.isEmpty then pure []
  else if maxRepeated < items.length * times.toNat then raise "MemoryError" ""
  else pure (Sequence.repeated items times)

/-- A sequence some times over. -/
def repeatRow (row : Row) (times : Int) : Evaluation Object := do
  if maxPosition < times.natAbs then raise "OverflowError" noPositionMessage
  match row with
  | .text cs => ofRow (.text (← repeatItems cs times))
  | .bytes bs => ofRow (.bytes (← repeatItems bs times))
  | .byteArray bs => ofRow (.byteArray (← repeatItems bs times))
  | .tuple items => ofRow (.tuple (← repeatItems items times))
  | .list items => ofRow (.list (← repeatItems items times))

/-! ### Sets and dictionaries -/

/-- The operators on sets. -/
def setOperators : List BinaryOperator := [.bar, .ampersand, .minus, .caret]

/-- The items of the set that an operator makes of two others. -/
def combineItems (operator : BinaryOperator) (items others : List Object) :
    Evaluation (List Object) := do
  match operator with
  | .bar => pure (items ++ others)
  | .ampersand =>
    if items.length < others.length then items.filterM (holds others)
    else others.filterM (holds items)
  | .minus => items.filterM fun o => do pure !(← holds others o)
  | _ => do
    let onlyOthers ← others.filterM fun o => do pure !(← holds items o)
    let onlyItems ← items.filterM fun o => do pure !(← holds others o)
    pure (onlyOthers ++ onlyItems)

/-- The object is a view of a dictionary that behaves as a set. -/
def isSetView (o : Object) : Evaluation Bool := do
  match ← cellOf? o with
  | some (.view kind _) => pure (kind != .values)
  | _ => pure false

/-- An operator on sets or dictionaries, if both objects are some that know it. -/
def combineCollections? (engine : Engine) (operator : BinaryOperator) (a b : Object) :
    Evaluation (Option Object) := do
  if !setOperators.contains operator then return none
  match ← set? a, ← set? b with
  | some (items, isFrozen), some (others, _) =>
    return some (← makeSet (← combineItems operator items others) isFrozen)
  | _, _ => pure ()
  if operator = .bar then
    if let (some entries, some others) := (← entries? a, ← entries? b) then
      return some (← makeDict (entries ++ others))
  if (← isSetView a) || (← isSetView b) then
    match ← elements? engine a, ← elements? engine b with
    | some items, some others =>
      let items ← setItems items
      let others ← setItems others
      some <$> makeSet (← combineItems operator items others) false
    | none, _ => throw (.notIterable (← kindName a))
    | _, none => throw (.notIterable (← kindName b))
  else pure none

/-! ### Operators -/

/-- What is said of operands that do not know an operator. -/
def refuseOperands {α : Type} (operator : BinaryOperator) (a b : Object) : Evaluation α := do
  throw (.operands operator.errorSign (← kindName a) (← kindName b))

/-- What is said of a value that is joined with another one. -/
def refuseJoin {α : Type} (row : Row) (a b : Object) : Evaluation α := do
  match row with
  | .bytes _ | .byteArray _ => typeError s!"can't concat {← kindName b} to {← kindName a}"
  | _ => throw (.notJoinable (← kindName a) (← kindName b))

/-- A product with a sequence. -/
def multiplyRow (a b : Object) : Evaluation Object := do
  match ← row? a, ← row? b, a.int?, b.int? with
  | some row, _, _, some times => repeatRow row times
  | some _, _, _, none => throw (.notCount (← kindName b))
  | none, some row, some times, _ => repeatRow row times
  | none, some _, none, _ => throw (.notCount (← kindName a))
  | none, none, _, _ => refuseOperands .times a b

/-- An operator on two objects. -/
def combine (engine : Engine) (operator : BinaryOperator) (a b : Object) : Evaluation Object := do
  if let some o ← combineSpecial? engine operator a b then return o
  let a ← plain a
  let b ← plain b
  if let some o ← combineNumbers? operator a b then return o
  if let some o ← combineCollections? engine operator a b then return o
  match operator with
  | .plus =>
    match ← row? a, ← row? b with
    | some row, some other =>
      match joinRows? row other with
      | some joined => ofRow joined
      | none => refuseJoin row a b
    | some row, none =>
      match (← bytesOf? b).bind fun bs => joinRows? row (.bytes bs) with
      | some joined => ofRow joined
      | none => refuseJoin row a b
    | none, _ => refuseOperands operator a b
  | .times => multiplyRow a b
  | .remainder =>
    match ← row? a with
    | some (.text cs) =>
      pure (.text (String.ofList (← ofTypeResult (Format.percent false cs (← frozen b)))))
    | some (.bytes bs) => ofRow (.bytes (← fillBytes bs))
    | some (.byteArray bs) => ofRow (.byteArray (← fillBytes bs))
    | _ => refuseOperands operator a b
  | .bar => Object.ofResult ((← frozen a).bar (← frozen b))
  | _ => refuseOperands operator a b
where
  /-- Bytes with the second operand in the place of their marks. -/
  fillBytes (bs : Bytes) : Evaluation Bytes := do
    let cs ← ofTypeResult (Format.percent true (Format.bytesAsChars bs) (← frozen b))
    pure (cs.map fun c => UInt8.ofNat c.toNat)

/-- An operator in front of an object. -/
def change (operator : UnaryOperator) (o : Object) : Evaluation Object := do
  match operator, o.number?, o.int? with
  | .plus, some n, _ => pure (.number n)
  | .minus, some n, _ => pure (.number n.negate)
  | .complement, _, some i => pure (.int (-i - 1))
  | _, _, _ => throw (.operand operator.sign (← kindName o))

end Evaluation

end HttpInterface
