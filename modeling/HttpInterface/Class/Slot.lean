import HttpInterface.Class.Definition
import HttpInterface.OrderedMap
import HttpInterface.Text.NameChar

/-!
# `HttpInterface.Class.Slot`: the names for which a class reserves places

A class may list the names of what its values hold. The values then have a place for
each of them and no table of names, unless the class asks for one or takes it from a base.
Two names are special: that of the table, and that of the place for weak references. A
value has each of these once at most.

A class takes the places of its bases over, but only in one row: of two bases with places
of their own, one has to be derived from the other.
-/

set_option autoImplicit false

namespace HttpInterface

/-- Why the names that a class reserves places for are not admitted. -/
inductive SlotError where
  /-- What should list the names is a value of this class. -/
  | noList (kind : String)
  /-- One of the names is a value of this class. -/
  | noText (kind : String)
  /-- One of the texts is no name. -/
  | noName
  /-- The values have a table of names, or a place for weak references, already. -/
  | taken (name : String)
  /-- The class defines something else under a name. -/
  | defined (name : String)
  deriving DecidableEq, Repr

/-- The message of an error about reserved names. -/
def SlotError.message : SlotError → String
  | noList kind => s!"'{kind}' object is not iterable"
  | noText kind => s!"__slots__ items must be strings, not '{kind}'"
  | noName => "__slots__ must be identifiers"
  | taken name =>
    if name = "__dict__" then s!"{name} slot disallowed: we already got one"
    else s!"{name} slot disallowed: either we already got one, or __itemsize__ != 0"
  | defined name => s!"{Text.quoted name} in __slots__ conflicts with class variable"

/-- What the values of a class hold. -/
structure Layout where
  hasTable : Bool := false
  hasWeakPlace : Bool := false
  /-- The number of the last class among the ancestors that has places of its own. -/
  owner : Option Nat := none
  deriving DecidableEq, Repr

namespace Layout

/-- The member that lists the names. -/
def listName : String := "__slots__"

/-- The name of the table of names. -/
def tableName : String := "__dict__"

/-- The name of the place for weak references. -/
def weakName : String := "__weakref__"

/-- The values in which a class lists the names. A text is the only name. -/
def listed : Member → Except SlotError (List Value)
  | .value (.text s) => .ok [.text s]
  | .value (.list items) => .ok items
  | .value (.tuple items) => .ok items
  | .value (.dict entries) => .ok (entries.map Prod.fst)
  | m => .error (.noList m.kindName)

/-- The name that one of the listed values is. -/
def nameOf : Value → Except SlotError String
  | .text s => if Text.isName s.toList then .ok s else .error .noName
  | t => .error (.noText t.kindName)

/-- The name under which a class keeps one of its own: the class stands in front of a name
that begins with two low lines and does not end with them. -/
def privateName (className name : String) : String :=
  let isLine (c : Char) : Bool := c == '_'
  let cs := name.toList
  let owner := className.toList.dropWhile isLine
  if (cs.take 2).all isLine && !(cs.reverse.take 2).all isLine && !owner.isEmpty then
    String.ofList ('_' :: owner ++ cs)
  else name

/-- Members that may have a name for which there is a place as well. -/
def isAdmitted (name : String) : Bool :=
  name = "__qualname__" || name = "__classcell__"

/-- Checks one of the names; `bases` is what the values hold by the bases, and `seen` are
the names in front of it. -/
def checkName (bases : Layout) (seen : List String) (name : String) : Except SlotError Unit :=
  if name = tableName && (bases.hasTable || seen.contains name) then .error (.taken name)
  else if name = weakName && (bases.hasWeakPlace || seen.contains name) then
    .error (.taken name)
  else .ok ()

/-- The names that the listed values are, checked one by one. -/
def namesOf (bases : Layout) (seen : List String) :
    List Value → Except SlotError (List String)
  | [] => .ok []
  | t :: rest => do
    let name ← nameOf t
    checkName bases seen name
    let names ← namesOf bases (name :: seen) rest
    pure (name :: names)

/-- What the values of a class hold, and the names for which it reserves places of its own.
`first` is what they hold by the base whose places
they take over, `all` is what they hold by any base, `index` is the number of the
class, and `given` are the names under which it has something without defining it. -/
def ofMembers (index : Nat) (className : String) (first all : Layout) (given : List String)
    (members : OrderedMap String Member) : Except SlotError (Layout × List String) := do
  match members.get? listName with
  | none => pure ({ hasTable := true, hasWeakPlace := true, owner := first.owner }, [])
  | some member =>
    let names ← namesOf first [] (← listed member)
    let own := (names.filter fun name => name ≠ tableName ∧ name ≠ weakName).map
      (privateName className)
    if let some name := own.find? fun name =>
        (given.contains name || members.contains name) && !isAdmitted name then
      throw (.defined name)
    let layout : Layout :=
      { hasTable := all.hasTable || names.contains tableName
        hasWeakPlace := all.hasWeakPlace || names.contains weakName
        owner := if own.isEmpty then first.owner else some index }
    pure (layout, own)

end Layout

end HttpInterface
