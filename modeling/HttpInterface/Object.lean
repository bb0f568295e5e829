import HttpInterface.Expression
import HttpInterface.TypeExpr.Error

/-!
# `HttpInterface.Object`: the values of an evaluation

While an expression is evaluated its values have an identity: a list that is changed
under one name is changed under all. Values that can change, or that can be told from
others that look the same, are kept in a store, and their places stand for them. All
other values stand for themselves.

An evaluation reads and changes the store, and it may fail. Failing leaves nothing
behind.
-/

set_option autoImplicit false

namespace HttpInterface

/-- A value in the course of an evaluation. -/
inductive Object where
  /-- A value that never changes and has no parts that do: a type, a number, a text. -/
  | fixed (t : TypeExpr)
  | tuple (items : List Object)
  /-- A predefined function. -/
  | predefined (name : String)
  /-- A function of a module; `kind` is the name of its class. -/
  | moduleFunction (kind module name : String)
  /-- A member that the values of a built-in class have, as the class has it. -/
  | memberOfClass (owner name : String)
  /-- The value at a place of the store. -/
  | stored (place : Nat)

instance : Inhabited Object := ⟨.fixed .none⟩

namespace Object

/-- Having no value. -/
def none : Object := .fixed .none

/-- A whole number. -/
def int (i : Int) : Object := .fixed (.constant (.int i))

/-- A truth value. -/
def bool (b : Bool) : Object := .fixed (.constant (.bool b))

/-- A text. -/
def text (s : String) : Object := .fixed (.text s)

/-- Bytes. -/
def bytes (bs : Bytes) : Object := .fixed (.constant (.bytes bs))

/-- A number. -/
def number (n : Number) : Object := .fixed (.constant (Constant.ofNumber n))

/-- A number with a point. -/
def float (x : Float) : Object := number (.real x)

/-- A built-in class. -/
def builtinClass (name : String) : Object := .fixed (TypeExpr.builtin name)

/-- The object is nothing. -/
def isNone : Object → Bool
  | .fixed .none => true
  | _ => false

/-- The number that an object is; truth values are numbers. -/
def number? : Object → Option Number
  | .fixed (.constant c) => c.number?
  | _ => Option.none

/-- The whole number that an object is; truth values are numbers. -/
def int? : Object → Option Int
  | .fixed (.constant c) => c.wholeNumber?
  | _ => Option.none

/-- The text that an object is. -/
def text? : Object → Option String
  | .fixed (.text s) => some s
  | _ => Option.none

/-- The bytes that an object is. -/
def bytes? : Object → Option Bytes
  | .fixed (.constant (.bytes bs)) => some bs
  | _ => Option.none

end Object

/-- A function that an expression makes, with the scopes in which it was made, inner ones
first. -/
structure Closure where
  /-- The name with those of the functions and comprehensions around it. -/
  path : String
  parameters : List SignatureParameter
  /-- The values of the parameters that have one. -/
  defaults : List (String × Object)
  body : Expression
  scopes : List Nat

/-- A loop that is under way: where its elements come from, its target, and the steps
within it. -/
structure ActiveLoop where
  source : Object
  target : Expression
  inner : List Expression

/-- A comprehension that is under way. -/
structure Generator where
  /-- The name with those of the functions and comprehensions around it. -/
  path : String
  scopes : List Nat
  element : Expression
  /-- The loops that are under way, inner ones first. -/
  loops : List ActiveLoop

/-- A function that is under way and hands values out. -/
structure PausedCall where
  /-- The name with those of the functions and comprehensions around it. -/
  path : String
  scopes : List Nat
  /-- What is left to do: a name stands for every value that was handed out. -/
  body : Expression
  /-- The name that stands for the value that was handed out last. -/
  slot? : Option String := none
  /-- What the function is given for that value. -/
  sent : Object := .none
  /-- What gives the values that are handed out now. -/
  inner? : Option Object := none
  /-- How many values were handed out. -/
  count : Nat := 0

/-- What gives elements one after the other. -/
inductive Source where
  /-- The rest of some values. -/
  | values (items : List Object)
  /-- The elements of the list at a place from a position on. -/
  | list (place position : Nat)
  /-- Whole numbers at equal distances. -/
  | range (next step : Int) (count : Nat)
  /-- What a function makes of the elements of several sources. -/
  | mapped (f : Object) (sources : List Object)
  /-- The elements that pass a test; nothing tests whether they count as true. -/
  | filtered (test source : Object)
  /-- The elements of several sources side by side. -/
  | zipped (sources : List Object) (strict : Bool)
  /-- The elements with their numbers. -/
  | numbered (next : Int) (source : Object)
  /-- What a function gives, up to a value that ends it. -/
  | called (f sentinel : Object)
  | generator (state : Generator)
  | paused (state : PausedCall)
  /-- The elements that a member of a class gives; it has not been asked yet. -/
  | asked (o : Object)
  /-- The elements of another iterator. -/
  | delegated (it : Object)
  /-- What a member of a class gives for one position after the other. -/
  | indexed (o : Object) (position : Nat)

/-- What of a dictionary is seen. -/
inductive ViewKind where
  | keys
  | values
  | items
  deriving DecidableEq, Repr

/-- A function as the text of a type may name it. -/
structure KnownFunction where
  name : String
  parameters : List SignatureParameter
  /-- The types of the parameters that have one, and that of the result. -/
  annotations : List (String × TypeExpr) := []
  /-- What else the function holds by name. -/
  attributes : List (String × TypeExpr) := []

/-- A member of a class as the text of a type may name it. -/
inductive KnownMember where
  | value (t : TypeExpr)
  | function (f : KnownFunction)
  | staticFunction (f : KnownFunction)
  | classFunction (f : KnownFunction)
  | property
  /-- A class within the class. -/
  | nested (c : ClassName)

/-- What can be kept in a store. -/
inductive Cell where
  | list (items : Array Object)
  /-- The items in the order in which they were added. -/
  | set (items : List Object) (isFrozen : Bool)
  | dict (entries : List (Object × Object))
  | byteArray (bytes : Bytes)
  /-- Bytes that are seen in another value, by their positions there. -/
  | memory (source : Object) (positions : List Nat)
  | range (start stop step : Int)
  | slice (start stop step : Object)
  | closure (f : Closure)
  /-- A function that is written in a class. Its body does nothing. -/
  | written (f : KnownFunction)
  /-- A member of a built-in class with the value that it belongs to. -/
  | bound (receiver : Object) (owner name : String)
  /-- A function with its first argument. -/
  | boundFunction (receiver f : Object)
  /-- A function as a class keeps it: one that takes the class, or nothing, in front. -/
  | wrapped (kind : String) (f : Object)
  | property (parts : List Object)
  /-- An error, by its class, the predefined class that this is or is derived from, its
  arguments, and what it was given by name. -/
  | error (cls : Object) (base : String) (args : List Object)
      (attributes : List (String × Object))
  /-- What elements are taken from, and the class of it. -/
  | iterator (kind : String) (source : Source)
  | view (kind : ViewKind) (place : Nat)
  /-- A value of a class. -/
  | instance (cls : Object) (attributes : List (String × Object))
  /-- A class that was made in the evaluation. -/
  | madeClass (name : String) (bases : List Object) (members : List (String × Object))
  /-- The names of a function or a comprehension, which has a name itself. A name without a
  value is one that will get one. -/
  | scope (isComprehension : Bool) (path : String) (names : List (String × Option Object))

/-- A class that the text of a type may name. -/
structure KnownClass where
  className : ClassName
  /-- The classes that it is derived from, itself first. -/
  ancestors : List ClassName := []
  /-- The bases as they are written. -/
  bases : List TypeExpr := []
  members : List (String × KnownMember) := []

/-- What an evaluation keeps. -/
structure Store where
  classes : List KnownClass := []
  /-- The members of the known classes as values, class by class. -/
  classMembers : List (List (String × Object)) := []
  /-- The place of the dictionary of the names outside of all functions. -/
  globals : Nat := 0
  cells : Array Cell := #[]

/-- An evaluation. -/
abbrev Evaluation := StateT Store (Except TypeExprError)

/-- What an evaluation needs of its whole: to call a value, and to take the next element
of an iterator. -/
structure Engine where
  call : Object → ArgumentList Object → Evaluation Object
  next? : Object → Evaluation (Option Object)

namespace Evaluation

/-- An error of a class. -/
def raise {α : Type} (className message : String) : Evaluation α :=
  throw (.raised className message)

/-- An error about the kind of a value. -/
def typeError {α : Type} (message : String) : Evaluation α := raise "TypeError" message

/-- An error about a value. -/
def valueError {α : Type} (message : String) : Evaluation α := raise "ValueError" message

/-- The value at a new place. -/
def make (c : Cell) : Evaluation Object := do
  let store ← get
  set { store with cells := store.cells.push c }
  pure (.stored store.cells.size)

/-- What is kept at a place. -/
def cell? (place : Nat) : Evaluation (Option Cell) := do
  pure (← get).cells[place]?

/-- Puts something else at a place. -/
def write (place : Nat) (c : Cell) : Evaluation Unit :=
  modify fun store => { store with cells := store.cells.setIfInBounds place c }

/-- What an object keeps in the store. -/
def cellOf? : Object → Evaluation (Option Cell)
  | .stored place => cell? place
  | _ => pure none

/-- A new list. -/
def makeList (items : List Object) : Evaluation Object := make (.list items.toArray)

/-- What an evaluation gives, or nothing if it fails with an error of some class. -/
def attempt? {α : Type} (className : String) (x : Evaluation α) : Evaluation (Option α) :=
  fun store =>
    match x store with
    | .ok (a, store) => .ok (some a, store)
    | .error e => if e.className = className then .ok (none, store) else .error e

end Evaluation

end HttpInterface
