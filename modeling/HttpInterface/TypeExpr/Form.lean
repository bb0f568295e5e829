import HttpInterface.TypeExpr

/-!
# `HttpInterface.TypeExpr.Form`: the forms of types

A generic form stands for a class and takes a certain number of arguments. Besides there are
special forms: some are types as they are and take no arguments, the others are types only
with arguments. A few of the latter are never admitted where a type may stand.
-/

set_option autoImplicit false

namespace HttpInterface

/-- A generic form that stands for a class. -/
structure ClassForm where
  name : String
  /-- The name of the class, and its package. -/
  origin : String
  package : String := ""
  /-- How many arguments the form takes. -/
  arity : Nat := 1

namespace ClassForm

/-- Forms whose classes have the same names, of one package. -/
def alike (package : String) (arity : Nat) (names : List String) : List ClassForm :=
  names.map fun name => { name, origin := name, package, arity }

/-- The forms of the containers. -/
def containers : List ClassForm :=
  [{ name := "List", origin := "list" },
   { name := "Dict", origin := "dict", arity := 2 },
   { name := "Set", origin := "set" },
   { name := "FrozenSet", origin := "frozenset" },
   { name := "Type", origin := "type" },
   { name := "Tuple", origin := "tuple", arity := 0 },
   { name := "Deque", origin := "deque", package := "collections" },
   { name := "DefaultDict", origin := "defaultdict", package := "collections", arity := 2 },
   { name := "OrderedDict", origin := "OrderedDict", package := "collections", arity := 2 },
   { name := "Counter", origin := "Counter", package := "collections" },
   { name := "ChainMap", origin := "ChainMap", package := "collections", arity := 2 }]

/-- The forms of what values can do. -/
def abilities : List ClassForm :=
  let package := "collections.abc"
  alike package 0 ["Hashable", "Sized", "ByteString", "Callable"] ++
    alike package 1
      ["Awaitable", "AsyncIterable", "AsyncIterator", "Iterable", "Iterator", "Reversible",
       "Container", "Collection", "MutableSet", "Sequence", "MutableSequence", "MappingView",
       "KeysView", "ValuesView"] ++
    alike package 2 ["Mapping", "MutableMapping", "ItemsView", "AsyncGenerator"] ++
    alike package 3 ["Coroutine", "Generator"] ++
    [{ name := "AbstractSet", origin := "Set", package }]

/-- The forms of other classes. -/
def others : List ClassForm :=
  [{ name := "ContextManager", origin := "AbstractContextManager", package := "contextlib" },
   { name := "AsyncContextManager"
     origin := "AbstractAsyncContextManager"
     package := "contextlib" }] ++
    alike "re" 1 ["Pattern", "Match"]

/-- All generic forms that stand for classes. -/
def all : List ClassForm := containers ++ abilities ++ others

/-- The form of a name. -/
def find? (name : String) : Option ClassForm := all.find? fun form => form.name = name

end ClassForm

namespace TypeExpr

/-- The special forms that take a single type, with what is said of several. -/
def singleForms : List (String × String) :=
  [("ClassVar", "accepts only single type."), ("Final", "accepts only single type."),
   ("TypeGuard", "accepts only single type."), ("Unpack", "accepts only single type."),
   ("Required", "accepts only a single type."), ("NotRequired", "accepts only a single type.")]

/-- The forms whose values do not stand where a type may stand. -/
def barredForms : List String := ["ClassVar", "Final", "Generic", "Protocol"]

/-- The classes that are no types without arguments. -/
def barredClasses : List String := ["Generic", "Protocol"]

end TypeExpr

end HttpInterface
