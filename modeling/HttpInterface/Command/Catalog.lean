import HttpInterface.Class.Table
import HttpInterface.Text.Quoted
import HttpInterface.Text.Split
import HttpInterface.Value

/-!
# `HttpInterface.Command.Catalog`: the interfaces that can be inspected

A catalog holds modules, and a module holds classes and values by name. A target
`module:Class` names a class of the catalog. No module of a catalog holds another
module, so a name with a point in it is never found.

Some names of a module are special. What it holds under one of them is called for every
name that it does not hold, and what it holds under another one says where its inner
modules are to be looked for.
-/

set_option autoImplicit false

namespace HttpInterface.Command

/-- A module: its classes, and the values that it holds besides. -/
structure InterfaceModule where
  classes : ClassTable
  others : List (String × Value) := []

/-- Why a module cannot hold a value. -/
inductive ModuleError where
  /-- The class of the module cannot be a value of this kind. -/
  | noClass (kind : String)
  /-- The table of names cannot be another one. -/
  | fixedTable
  deriving DecidableEq, Repr

/-- The message of a module error. -/
def ModuleError.message : ModuleError → String
  | noClass kind => s!"__class__ must be set to a class, not '{kind}' object"
  | fixedTable => "readonly attribute"

/-- The modules that are known. -/
abbrev Catalog := List InterfaceModule

/-- Why a target names no class. -/
inductive TargetError where
  /-- The target is not a module, a colon and a class. -/
  | malformed (target : String)
  /-- The name of the module starts with a point. -/
  | relativeModule (name : String)
  /-- There is no module of the name `missing`. -/
  | noModule (name missing : String)
  /-- The module `owner` holds no module. -/
  | noPackage (name missing owner : String)
  /-- The module has no class of this name. -/
  | noClass (owner name : String)
  /-- What is called for a name that a module does not hold cannot be called. -/
  | notCallable (kind : String)
  /-- What is called for a name that a module does not hold is a class without
  arguments. -/
  | takesNothing (name : String)
  /-- What says where inner modules are to be looked for has no parts. -/
  | noPlaces (kind : String)
  deriving DecidableEq, Repr

/-- The class that a module itself belongs to. It makes no declarations. -/
def InterfaceModule.ownClass (m : InterfaceModule) : DefinedClass :=
  let index := m.classes.classes.length
  { definition := { name := "module" }
    index
    bases := [.object]
    ancestors := [.defined index, .object]
    typeParameters := none
    namespaceMap := .empty }

namespace InterfaceModule

/-- The name for the class of a module. -/
def classMember : String := "__class__"

/-- The name for what is called for every name that a module does not hold. -/
def fallbackMember : String := "__getattr__"

/-- The name for the places of the inner modules. -/
def placesMember : String := "__path__"

/-- A module of classes and values, if it can hold them. -/
def ofValues (classes : ClassTable) (others : List (String × Value)) :
    Except ModuleError InterfaceModule := do
  for (name, value) in others do
    if name = classMember then throw (.noClass value.kindName)
    if name = "__dict__" then throw .fixedTable
  pure { classes, others }

/-- The class that is written under a name in a module. -/
def classOf? (m : InterfaceModule) (name : String) : Option DefinedClass :=
  (m.classes.classes.filter fun c => !c.definition.isMentioned).reverse.find? fun c =>
    c.definition.name == name

/-- The class of a name in a module. -/
def find? (m : InterfaceModule) (name : String) : Option DefinedClass :=
  if name = classMember then some m.ownClass
  else if (m.others.lookup name).isSome then none
  else m.classOf? name

/-- The module holds something under a name. -/
def holds (m : InterfaceModule) (name : String) : Bool :=
  name = classMember || (m.others.lookup name).isSome || (m.classOf? name).isSome

/-- The names that every module holds. -/
def usualNames : List String :=
  ["__name__", "__doc__", "__package__", "__loader__", "__spec__", "__dict__",
   "__annotations__", "__init__", "__repr__", "__getattribute__", "__setattr__", "__delattr__",
   "__dir__", "__new__", "__hash__", "__str__", "__lt__", "__le__", "__eq__", "__ne__", "__gt__",
   "__ge__", "__reduce__", "__reduce_ex__", "__getstate__", "__subclasshook__",
   "__init_subclass__", "__format__", "__sizeof__"]

/-- What happens when a name is asked for that the module does not hold: what the module
holds for that case is called. -/
def fallBack (m : InterfaceModule) : Except TargetError Unit :=
  match m.others.lookup fallbackMember, m.classOf? fallbackMember with
  | some value, _ => .error (.notCallable value.kindName)
  | none, some c => .error (.takesNothing c.definition.name)
  | none, none => .ok ()

/-- The module says where its inner modules are to be looked for. -/
def hasPlaces (m : InterfaceModule) : Except TargetError Bool :=
  match m.others.lookup placesMember, m.classOf? placesMember with
  | some .null, _ | some (.text _), _ | some (.list _), _ | some (.dict _), _ => .ok true
  | some value, _ => .error (.noPlaces value.kindName)
  | none, some _ => .error (.noPlaces "type")
  | none, none => .ok false

end InterfaceModule

namespace Catalog

/-- The module of a name. -/
def moduleNamed (catalog : Catalog) (name : String) :
    Except TargetError InterfaceModule :=
  match Text.splitOn '.' name.toList with
  | [] :: _ :: _ => .error (.relativeModule name)
  | [] => .error (.noModule name name)
  | first :: inner =>
    let owner := String.ofList first
    match catalog.find? fun m => m.classes.package == owner with
    | none => .error (.noModule name owner)
    | some m =>
      match inner with
      | [] => .ok m
      | second :: _ => do
        let missing := String.ofList (first ++ '.' :: second)
        if ← m.hasPlaces then throw (.noModule name missing)
        m.fallBack
        throw (.noPackage name missing owner)

/-- The class that a target names, and its module. -/
def find (catalog : Catalog) (target : String) :
    Except TargetError (InterfaceModule × DefinedClass) :=
  match Text.cut ':' target.toList with
  | (m :: moduleName, some (c :: className)) => do
    let moduleName := String.ofList (m :: moduleName)
    let className := String.ofList (c :: className)
    let found ← catalog.moduleNamed moduleName
    match found.find? className with
    | some c => pure (found, c)
    | none =>
      if !found.holds className && !InterfaceModule.usualNames.contains className then
        found.fallBack
      throw (.noClass moduleName className)
  | _ => .error (.malformed target)

end Catalog

/-- The message of a target error. -/
def TargetError.message : TargetError → String
  | .malformed target => s!"expected 'module:ClassName', got {Text.quoted target}"
  | .relativeModule name =>
    s!"the 'package' argument is required to perform a relative import for {Text.quoted name}"
  | .noModule name missing =>
    s!"cannot import {Text.quoted name}: No module named {Text.quoted missing}"
  | .noPackage name missing owner =>
    s!"cannot import {Text.quoted name}: No module named {Text.quoted missing}; " ++
      s!"{Text.quoted owner} is not a package"
  | .noClass owner name =>
    s!"{Text.quoted name} is not a class in {Text.quoted owner}"
  | .notCallable kind => s!"'{kind}' object is not callable"
  | .takesNothing name => s!"{name}() takes no arguments"
  | .noPlaces kind => s!"'{kind}' object is not iterable"

end HttpInterface.Command
