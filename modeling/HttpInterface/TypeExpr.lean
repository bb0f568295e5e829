import HttpInterface.Constant
import HttpInterface.Text.Digit

/-!
# `HttpInterface.TypeExpr`: declared types

The type of a parameter or of a result, as it was declared. A type is never
checked against a value: its short name is part of the key of a method, its full
text is shown, and a URL type marks the parameter that replaces the base URL.

There are two spellings of the common containers, `list[int]` and `List[int]`,
and two of a choice, `Union[int, None]` and `int | None`. Their texts tell them
apart.

Nothing keeps a declaration from stating a value that is no type, such as a
number or a tuple of types, so these values are among the declared types.

`name` and `fullText` write every number with all its digits. A text is told
only if no number in it has more than `Text.maxDigits` of them, which
`hasTellableName` and `isTellable` say of a type. Whoever tells a name or a text
asks them first.
-/

set_option autoImplicit false

namespace HttpInterface

/-- What a class says of the package that it is from. -/
inductive PackageClaim where
  /-- It is from the package that defines it. -/
  | own
  /-- It names a package by a text. -/
  | named (package : String)
  /-- In the place of a name stands something else, which has this text. -/
  | unnamed (shown : String)
  /-- It is from nowhere. -/
  | nowhere
  deriving DecidableEq, Repr

/-- A class by the package that defines it; the built-in ones have none. -/
structure ClassName where
  package : String
  name : String
  /-- What tells the class from others of its name. -/
  identity : Nat := 0
  /-- What the class says of its package. -/
  claim : PackageClaim := .own
  /-- The name that texts of types use. -/
  longName : String := name
  /-- The class is the URL class or derived from it. -/
  isUrl : Bool := false
  /-- The type variables that arguments stand for, if the class has ever had any. -/
  typeVariables : Option (List String) := none
  deriving DecidableEq, Repr

/-- What stands in front of type arguments. -/
structure TypeHead where
  package : String
  name : String
  /-- The class that the head stands for. -/
  origin : String
  /-- What tells that class from others of its name. -/
  identity : Nat := 0
  /-- What that class says of its package. -/
  claim : PackageClaim := .own
  deriving DecidableEq, Repr

/-- The head that is a generic form. -/
def TypeHead.ofForm (name origin : String) : TypeHead :=
  { package := "typing", name, origin }

/-- A value that has a text and perhaps a name: a function, a member, a slice. -/
structure Thing where
  /-- The name of its class. -/
  kind : String
  /-- Its own name, if it has one. -/
  name : Option String
  /-- How it is shown. -/
  text : String
  /-- The text that a reader sees, if it is not the one that is shown. -/
  plainText : Option String := none
  /-- What tells it from others that look the same, if anything does. -/
  identity : Option Nat := none
  deriving DecidableEq, Repr

/-- Where the text of a type stands. -/
inductive TextPlace where
  /-- On its own. -/
  | alone
  /-- Among the arguments of a generic form. -/
  | inForm
  /-- Among the arguments of a built-in container, or between bars. -/
  | inContainer
  deriving DecidableEq, Repr

/-- The packages whose classes take arguments as the built-in containers do. -/
def containerPackages : List String := ["", "collections", "collections.abc", "contextlib", "re"]

/-- The head is a class that takes arguments as a built-in container does. -/
def TypeHead.isContainer (head : TypeHead) : Bool := containerPackages.contains head.package

/-- The special forms that are types as they are. -/
def TypeHead.soleForms : List String :=
  ["NoReturn", "Never", "Self", "LiteralString", "TypeAlias"]

/-- The special forms that are types only with arguments. -/
def TypeHead.partForms : List String :=
  ["Optional", "Union", "Literal", "ClassVar", "Final", "Concatenate", "TypeGuard", "Unpack",
   "Required", "NotRequired"]

/-- The head is a special form. -/
def TypeHead.isSpecial (head : TypeHead) : Bool :=
  head.package = "typing" && (soleForms ++ partForms).contains head.name

/-- The place among the arguments behind a head. -/
def TypeHead.argumentPlace (head : TypeHead) : TextPlace :=
  if head.isContainer then .inContainer else .inForm

/-- The class is the one that admits anything. -/
def ClassName.isAny (c : ClassName) : Bool :=
  c.package = "typing" && c.name = "Any"

/-- The text of a thing: where types stand a function is given by its name alone, and
so is a built-in function in a container. -/
def Thing.textIn (place : TextPlace) (thing : Thing) : String :=
  let byName :=
    match place with
    | .alone => false
    | .inForm => thing.kind = "function"
    | .inContainer => thing.kind = "function" || thing.kind = "builtin_function_or_method"
  if byName then thing.name.getD thing.text else thing.text

/-- What a parameter is marked with beside its type. -/
inductive Marker where
  /-- The name that the parameter is bound to. -/
  | param (name : String)
  /-- The older way to state that name. -/
  | named (name : String)
  /-- A note without meaning. -/
  | note (text : String)
  /-- Any other value, by its text. -/
  | value (shown : String)
  deriving DecidableEq, Repr

/-- The text of a marker. -/
def Marker.shown : Marker → String
  | .param name => "Param(value=" ++ Text.quoted name ++ ")"
  | .named name => "Named(value=" ++ Text.quoted name ++ ")"
  | .note s => Text.quoted s
  | .value shown => shown

/-- A declared type. -/
inductive TypeExpr where
  /-- No type. -/
  | none
  /-- The type of having no value. -/
  | noneType
  | cls (name : ClassName)
  | typeVar (name : String)
  /-- A generic form without its arguments. -/
  | bare (head : TypeHead)
  /-- A type given by its text, or a text where a type should be. -/
  | text (s : String)
  /-- The text of a type that is to be looked up later. -/
  | deferred (s : String)
  | applied (head : TypeHead) (args : List TypeExpr)
  /-- The elements of a type, where several types may stand. -/
  | unpacked (t : TypeExpr)
  /-- A choice written `Union[..]`. -/
  | union (members : List TypeExpr)
  /-- A choice written with bars. -/
  | bars (members : List TypeExpr)
  | literal (values : List Constant)
  | annotated (base : TypeExpr) (markers : List Marker)
  /-- A constant other than a text and nothing. -/
  | constant (value : Constant)
  | tuple (items : List TypeExpr)
  | list (items : List TypeExpr)
  | set (items : List TypeExpr)
  /-- A set that cannot be changed. -/
  | frozenSet (items : List TypeExpr)
  /-- A dictionary, by its keys and the values of the keys. -/
  | dict (keys values : List TypeExpr)
  | other (thing : Thing)

namespace TypeExpr

instance : Inhabited TypeExpr := ⟨.none⟩

/-- The value of a constant. -/
def ofConstant : Constant → TypeExpr
  | .null => .none
  | .text s => .text s
  | c => .constant c

/-- A built-in class. -/
def builtin (name : String) : TypeExpr :=
  .cls { package := "", name }

/-- The type that admits anything. -/
def any : TypeExpr :=
  .cls { package := "typing", name := "Any" }

/-! ### Texts -/

/-- The name of a class with its package in front. -/
def qualified (package name : String) : String :=
  if package.isEmpty then name else package ++ "." ++ name

/-- A text without the package `typing`, wherever it stands. -/
def withoutTyping : List Char → List Char
  | 't' :: 'y' :: 'p' :: 'i' :: 'n' :: 'g' :: '.' :: rest => withoutTyping rest
  | c :: rest => c :: withoutTyping rest
  | [] => []

/-- Texts between brackets, `()` if there are none. -/
def bracketed (texts : List String) : String :=
  if texts.isEmpty then "[()]" else "[" ++ ", ".intercalate texts ++ "]"

/-- Texts as a tuple: a comma stands behind a single one. -/
def parenthesized (texts : List String) : String :=
  match texts with
  | [one] => "(" ++ one ++ ",)"
  | texts => "(" ++ ", ".intercalate texts ++ ")"

/-- Texts as a set, which has a text of its own if it is empty. -/
def braced (texts : List String) : String :=
  if texts.isEmpty then "set()" else "\x7b" ++ ", ".intercalate texts ++ "\x7d"

/-- The texts of keys and values as a dictionary. -/
def bracedEntries (keys values : List String) : String :=
  let entries := keys.zipWith (fun key value => key ++ ": " ++ value) values
  "\x7b" ++ ", ".intercalate entries ++ "\x7d"

/-- A name with what its class says of the package in front. -/
def claimedPath (claim : PackageClaim) (package name : String) : String :=
  match claim with
  | .own => qualified package name
  | .named stated => if stated = "builtins" then name else stated ++ "." ++ name
  | .unnamed shown => shown ++ "." ++ name
  | .nowhere => "None." ++ name

/-- A class with its package in front. -/
def classPath (c : ClassName) : String :=
  claimedPath c.claim c.package c.longName

/-- A class as a value. Where no text names its package it stands alone. -/
def classText (c : ClassName) : String :=
  let path :=
    match c.claim with
    | .own => classPath c
    | .named package => if package = "builtins" then c.name else classPath c
    | .unnamed _ | .nowhere => c.name
  if c.isAny then path else "<class '" ++ path ++ "'>"

/-- What stands in front of arguments, with its package. -/
def headPath (head : TypeHead) : String :=
  claimedPath head.claim head.package head.name

/-- The texts of the arguments behind a head. Those of a function stand in brackets of their own,
in front of the type of its result. -/
def groupTexts (head : TypeHead) (texts : List String) : List String :=
  if head.name != "Callable" then texts
  else
    match texts.reverse with
    | [result, "..."] => ["...", result]
    | result :: args => ["[" ++ ", ".intercalate args.reverse ++ "]", result]
    | [] => []

mutual

/-- The text of a type in a place. -/
def textAs (place : TextPlace) : TypeExpr → String
  | .none => "None"
  | .noneType => if place = .alone then "<class 'NoneType'>" else "NoneType"
  | .cls c =>
    if place = .alone || (place = .inContainer && c.claim = .nowhere) then classText c
    else classPath c
  | .typeVar name => "~" ++ name
  | .bare head => qualified head.package head.name
  | .text s => Text.quoted s
  | .deferred s => "ForwardRef(" ++ Text.quoted s ++ ")"
  | .applied head args =>
    headPath head ++ bracketed (groupTexts head (textsAs head.argumentPlace args))
  | .unpacked t => "*" ++ textAs .inForm t
  | .union [.noneType, t] => "typing.Optional[" ++ textAs .inForm t ++ "]"
  | .union [t, .noneType] => "typing.Optional[" ++ textAs .inForm t ++ "]"
  | .union members => "typing.Union" ++ bracketed (textsAs .inForm members)
  | .bars members => " | ".intercalate (barTexts members)
  | .literal values => "typing.Literal" ++ bracketed (values.map Constant.shown)
  | .annotated base markers =>
    "typing.Annotated" ++ bracketed (textAs .inForm base :: markers.map Marker.shown)
  | .constant c => if place ≠ .alone && c = .ellipsis then "..." else c.shown
  | .tuple items => parenthesized (textsAs .alone items)
  | .list items => "[" ++ ", ".intercalate (textsAs .alone items) ++ "]"
  | .set items => braced (textsAs .alone items)
  | .frozenSet items =>
    "frozenset(" ++ (if items.isEmpty then "" else braced (textsAs .alone items)) ++ ")"
  | .dict keys values => bracedEntries (textsAs .alone keys) (textsAs .alone values)
  | .other thing => thing.textIn place

/-- The texts of types in a place. -/
def textsAs (place : TextPlace) : List TypeExpr → List String
  | [] => []
  | t :: rest => textAs place t :: textsAs place rest

/-- The texts of types as they stand between bars. -/
def barTexts : List TypeExpr → List String
  | [] => []
  | .noneType :: rest => "None" :: barTexts rest
  | t :: rest => textAs .inContainer t :: barTexts rest

end

/-- A type as it stands inside another one. -/
def shown (t : TypeExpr) : String := textAs .inForm t

/-- A type as a value of its own. -/
def valueText (t : TypeExpr) : String := textAs .alone t

/-- A type as a value of its own, without the package `typing`. -/
def shownWhole (t : TypeExpr) : String :=
  String.ofList (withoutTyping t.valueText.toList)

/-- The short name of a type, which keys use. A value that has no name, or an empty one, is
named by its text. -/
def name : TypeExpr → String
  | .none => "None"
  | .noneType => "None"
  | .cls c => if c.name.isEmpty then shownWhole (.cls c) else c.name
  | .typeVar name => name
  | .bare head => head.origin
  | .text s => String.ofList (withoutTyping s.toList)
  | .applied head _ =>
    if head.origin.isEmpty then
      shownWhole (.cls { package := head.package, name := head.origin, claim := head.claim })
    else head.origin
  | .unpacked _ => "Unpack"
  | .union _ => "Union"
  | .bars _ => "UnionType"
  | .literal _ => "Literal"
  | .annotated _ _ => "Annotated"
  | .other thing =>
    thing.name.getD (String.ofList (withoutTyping (thing.plainText.getD thing.text).toList))
  | t => shownWhole t

/-- The full text of a type, its arguments included. -/
def fullText (t : TypeExpr) : String :=
  match t with
  | .bare _ | .applied _ _ | .unpacked _ | .union _ | .bars _ | .literal _ | .annotated _ _ =>
    String.ofList (withoutTyping t.shown.toList)
  | t => t.name

/-- The type marks the parameter that holds the base URL. -/
def isUrl : TypeExpr → Bool
  | .cls c => c.isUrl
  | _ => false

/-! ### Kinds -/

/-- A form of the package of types, which makes choices written `Union[..]` even of
bars. -/
def isForm : TypeExpr → Bool
  | .typeVar _ | .bare _ | .deferred _ | .union _ | .literal _ | .annotated _ _ => true
  | .applied head _ => !head.isContainer
  | _ => false

/-- The form stands for no class. -/
def isPlainForm : TypeExpr → Bool
  | .bare head => head.isSpecial
  | _ => false

/-- The name of the class that a type belongs to as a value. -/
def kindName (t : TypeExpr) : String :=
  match t with
  | .none => "NoneType"
  | .noneType => "type"
  | .cls c => if c.isAny then "_AnyMeta" else "type"
  | .typeVar _ => "TypeVar"
  | .bare _ => if t.isPlainForm then "_SpecialForm" else "_SpecialGenericAlias"
  | .text _ => "str"
  | .deferred _ => "ForwardRef"
  | .applied _ _ => if t.isForm then "_GenericAlias" else "types.GenericAlias"
  | .unpacked (.applied head _) =>
    if head.isContainer then "types.GenericAlias" else "_UnpackGenericAlias"
  | .unpacked _ => "_UnpackGenericAlias"
  | .union _ => "_UnionGenericAlias"
  | .bars _ => "types.UnionType"
  | .literal _ => "_LiteralGenericAlias"
  | .annotated _ _ => "_AnnotatedAlias"
  | .constant c => c.kindName
  | .tuple _ => "tuple"
  | .list _ => "list"
  | .set _ => "set"
  | .frozenSet _ => "frozenset"
  | .dict _ _ => "dict"
  | .other thing => thing.kind

/-- A type counts as true in a condition; of the other values those do that are
not empty. -/
def isTrue : TypeExpr → Bool
  | .none => false
  | .text s => !s.isEmpty
  | .constant c => c.isTrue
  | .tuple items | .list items | .set items | .frozenSet items | .dict items _ =>
    !items.isEmpty
  | _ => true

mutual

/-- The text of a type can be told: every whole number in it has few enough digits. -/
def isTellable : TypeExpr → Bool
  | .constant c => c.isTellable
  | .literal values => values.all Constant.isTellable
  | .tuple items | .list items | .set items | .frozenSet items => areTellable items
  | .dict keys values => areTellable keys && areTellable values
  | .applied _ args => areTellable args
  | .union members | .bars members => areTellable members
  | .unpacked t => isTellable t
  | .annotated base _ => isTellable base
  | _ => true

/-- The texts of some types can be told. -/
def areTellable : List TypeExpr → Bool
  | [] => true
  | t :: rest => isTellable t && areTellable rest

end

/-- The short name of a type can be told. Only a value that has no name is named by its text. -/
def hasTellableName : TypeExpr → Bool
  | .constant c => isTellable (.constant c)
  | .tuple items => isTellable (.tuple items)
  | .list items => isTellable (.list items)
  | .set items => isTellable (.set items)
  | .frozenSet items => isTellable (.frozenSet items)
  | .dict keys values => isTellable (.dict keys values)
  | _ => true

/-- A type that can be told has a name that can be told. -/
theorem hasTellableName_of_isTellable {t : TypeExpr} (h : t.isTellable = true) :
    t.hasTellableName = true := by
  cases t with
  | constant | tuple | list | set | frozenSet | dict => exact h
  | _ => rfl

/-! ### Type variables -/

mutual

/-- The type variables of a type, each as often as it occurs. -/
def typeVariables : TypeExpr → List String
  | .typeVar name => [name]
  | .applied _ args => typeVariablesOf args
  | .unpacked t => typeVariables t
  | .union members => typeVariablesOf members
  | .bars members => typeVariablesOf members
  | .annotated base _ => typeVariables base
  | _ => []

/-- The type variables of several types. -/
def typeVariablesOf : List TypeExpr → List String
  | [] => []
  | t :: rest => typeVariables t ++ typeVariablesOf rest

end

end TypeExpr

end HttpInterface
