import HttpInterface.TypeExpr.Build

/-!
# `HttpInterface.TypeExpr.Compare`: values in an order, and values among others

Numbers are in an order, and so are texts, bytes, and sequences of one kind, which are
compared at the first place where they differ. One set comes before another if the other
holds all its items and more. Other values are in no order.
-/

set_option autoImplicit false

namespace HttpInterface

namespace TypeExpr

/-- The number that a value is. -/
def number? : TypeExpr → Option Number
  | .constant c => c.number?
  | _ => Option.none

/-- The whole number that a value is equal to, unless it has a point. -/
def wholeNumber? : TypeExpr → Option Int
  | .constant c => c.wholeNumber?
  | _ => Option.none

/-- The parts of a typing form whose order counts for being one and the same. -/
def orderedParts? : TypeExpr → Option (List TypeExpr)
  | .union members => some members
  | _ => Option.none

/-- Both values are one and the same, as far as their texts can tell: numbers of two
kinds are not, and neither are choices with their members in two orders. -/
def identical (a b : TypeExpr) : Bool :=
  match a, b with
  | .applied _ _, _ => a.isForm && a.same b
  | .tuple items, .tuple others => items.isEmpty && others.isEmpty
  | .list _, _ | .set _, _ | .dict _ _, _ | .bars _, _ => false
  | .union members, .union others => matchesAll (sameAs members) others
  | .other thing, .other another =>
    (thing.identity.isSome || thing.kind = "NotImplementedType") && thing == another
  | _, _ => a.same b && a.kindName == b.kindName

/-- The four comparisons of values in an order. -/
def orderings : List Comparison := [.less, .lessOrEqual, .greater, .greaterOrEqual]

/-- A comparison of two values of which each is less than, equal to, or greater than the
other. -/
def orderingHolds (test : Comparison) (o : Ordering) : Bool :=
  match test with
  | .less => o == .lt
  | .lessOrEqual => o != .gt
  | .greater => o == .gt
  | .greaterOrEqual => o != .lt
  | .equal => o == .eq
  | _ => o != .eq

/-- A comparison of numbers, if they are in an order. -/
def compareNumbers? (test : Comparison) (m n : Number) : Option Bool :=
  match test with
  | .less => m.less? n
  | .lessOrEqual => m.atMost? n
  | .greater => n.less? m
  | _ => n.atMost? m

/-- All items are among others. -/
def isSubset (items others : List TypeExpr) : Bool :=
  items.all fun t => others.any (same t)

/-- A comparison of sets by what they hold. -/
def compareSets (test : Comparison) (items others : List TypeExpr) : Bool :=
  match test with
  | .less => isSubset items others && !isSubset others items
  | .lessOrEqual => isSubset items others
  | .greater => isSubset others items && !isSubset items others
  | _ => isSubset others items

/-- The items of a set. -/
def setItems? : TypeExpr → Option (List TypeExpr)
  | .set items | .frozenSet items => some items
  | _ => Option.none

/-- The bytes of a value that is bytes. -/
def bytes? : TypeExpr → Option Bytes
  | .constant (.bytes bs) => some bs
  | _ => Option.none

mutual

/-- A comparison of two values that asks for an order. -/
def compareInOrder (test : Comparison) (a b : TypeExpr) : Except TypeExprError Bool :=
  match a, b with
  | .text s, .text t => .ok (orderingHolds test (compareOfLessAndEq s t))
  | .tuple items, .tuple others => compareItems test items others
  | .list items, .list others => compareItems test items others
  | a, b =>
    let unordered := Except.error (.unordered test.sign a.kindName b.kindName)
    match a.number?, b.number?, a.bytes?, b.bytes?, a.setItems?, b.setItems? with
    | some m, some n, _, _, _, _ => ((compareNumbers? test m n).map Except.ok).getD unordered
    | _, _, some bs, some cs, _, _ =>
      .ok (orderingHolds test (compare (bs.map UInt8.toNat) (cs.map UInt8.toNat)))
    | _, _, _, _, some items, some others => .ok (compareSets test items others)
    | _, _, _, _, _, _ => unordered

/-- A comparison of the items of two sequences. -/
def compareItems (test : Comparison) : List TypeExpr → List TypeExpr → Except TypeExprError Bool
  | [], others => .ok (orderingHolds test (if others.isEmpty then .eq else .lt))
  | _ :: _, [] => .ok (orderingHolds test .gt)
  | t :: rest, u :: others =>
    if same t u then compareItems test rest others else compareInOrder test t u

end

/-- Items stand in others one behind the other. -/
def occursIn {α : Type} [BEq α] (items : List α) : List α → Bool
  | [] => items.isEmpty
  | c :: rest => items.isPrefixOf (c :: rest) || occursIn items rest

end TypeExpr

end HttpInterface
