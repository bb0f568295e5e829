import HttpInterface.Class.Linearization
import HttpInterface.Class.Slot
import HttpInterface.Object.Class
import HttpInterface.TypeExpr.Apply

/-!
# `HttpInterface.Class.Table`: classes that are defined one after the other

A class may be derived from the classes defined before it and from the ancestors
that every table knows. When it is defined its bases are looked up, places are reserved for
the names that it lists, the order of all its ancestors is found, and its ancestors may
have their say in a function that is called with the class. Unless that function stands in
the way, the type variables that the class leaves open are collected. A class that breaks
one of the rules for bases is not defined.
-/

set_option autoImplicit false

namespace HttpInterface

/-- A class or one of the ancestors that every table knows. -/
inductive Ancestor where
  | object
  | protocol
  | generic
  | url
  /-- The class defined as number `index`. -/
  | defined (index : Nat)
  deriving DecidableEq, Repr

/-- A class with what is known of it once it is defined. -/
structure DefinedClass where
  definition : ClassDef
  /-- Its number in the order of definition. -/
  index : Nat
  bases : List Ancestor
  /-- The class and all its ancestors, itself first. -/
  ancestors : List Ancestor
  /-- The type variables that it leaves open, if they were collected. -/
  typeParameters : Option (List String)
  /-- What its names stand for. -/
  namespaceMap : OrderedMap String Member
  layout : Layout := {}
  /-- The bases as they are written, if one of them has arguments. -/
  baseList : Option TypeExpr := none

/-- Why a class cannot be defined. -/
inductive ClassError where
  /-- The name of the class holds the character that ends every text. -/
  | nulInName
  | unknownBase (name : String)
  /-- A base with arguments that it does not take. -/
  | arguments (error : TypeExprError)
  /-- `Generic` or `Protocol` stands with brackets and without arguments. -/
  | noVariables (form : String)
  /-- `Generic` or `Protocol` has an argument that is no type variable. -/
  | otherThanVariables (form : String)
  /-- `Generic` or `Protocol` has a type variable twice. -/
  | repeatedVariable (form : String)
  /-- Two bases have places of their own. -/
  | severalLayouts
  | slot (error : SlotError)
  /-- A member that only a value of another class may be; `kind` is its own class. -/
  | unfitMember (name kind : String)
  | duplicateBase (name : String)
  /-- The orders of the bases contradict each other. -/
  | noOrder (names : List String)
  /-- A class has `Generic` with arguments more than once. -/
  | severalGenerics
  /-- Type variables of the bases are not among those of `Generic`. -/
  | unlistedVariables (missing listed : List String)
  /-- A protocol has a base that is none; `className` is how this base is shown. -/
  | noProtocol (className : String)
  /-- A function of a class takes other arguments than it is called with. -/
  | call (name : String) (error : BindingError)
  /-- A member of a class that is called is no function. -/
  | notCallable (kind : String)
  /-- A class within the class that is called takes no arguments. -/
  | takesNothing (name : String)
  /-- A class with arguments is no class, but other bases are. -/
  | noClassAmongClasses
  /-- No class with arguments is a class. -/
  | noClass
  /-- The member that lists the bases has none; `kind` is its class. -/
  | noBaseList (kind : String)
  /-- The member that holds what marks leave cannot take a mark. -/
  | mark (error : TypeExprError)
  deriving DecidableEq, Repr

/-- The message of a class error. -/
def ClassError.message : ClassError → String
  | .nulInName => "type name must not contain null characters"
  | .unknownBase name => Text.quoted name
  | .arguments e => e.message
  | .noVariables form => s!"Parameter list to {form}[...] cannot be empty"
  | .otherThanVariables form =>
    s!"Parameters to {form}[...] must all be type variables or parameter specification variables."
  | .repeatedVariable form => s!"Parameters to {form}[...] must all be unique"
  | .severalLayouts => "multiple bases have instance lay-out conflict"
  | .slot e => e.message
  | .unfitMember name kind =>
    if name = "__qualname__" then s!"type __qualname__ must be a str, not {kind}"
    else s!"{name} must be a nonlocal cell, not <class '{kind}'>"
  | .duplicateBase name => s!"duplicate base class {name}"
  | .noOrder names =>
    "Cannot create a consistent method resolution\norder (MRO) for bases " ++
      ", ".intercalate names
  | .severalGenerics => "Cannot inherit from Generic[...] multiple types."
  | .unlistedVariables missing listed =>
    let shown (names : List String) : String :=
      ", ".intercalate (names.map fun name => "~" ++ name)
    s!"Some type variables ({shown missing}) are not listed in Generic[{shown listed}]"
  | .noProtocol className =>
    s!"Protocols can only inherit from other protocols, got {className}"
  | .call name e => e.message name
  | .notCallable kind => s!"'{kind}' object is not callable"
  | .takesNothing name => s!"{name}() takes no arguments"
  | .noClassAmongClasses =>
    "metaclass conflict: the metaclass of a derived class must be a (non-strict) subclass " ++
      "of the metaclasses of all its bases"
  | .noClass => "NoneType takes no arguments"
  | .noBaseList kind =>
    if kind = "str" then "'in <string>' requires string as left operand, not type"
    else s!"argument of type '{kind}' is not iterable"
  | .mark e => e.message

/-- The member that lists the bases as they are written. -/
def baseListName : String := "__orig_bases__"

namespace Member

/-- The error of asking a member for a function of dictionaries. -/
def withoutGet : Member → TypeExprError
  | nested name => .noClassMember name "get"
  | m => .noMember m.kindName "get"

/-- The error of giving a member an item by a name. -/
def withoutItems (m : Member) : TypeExprError :=
  if m.kindName = "list" then .noPosition "list" "str"
  else .raised "TypeError" s!"'{m.kindName}' object does not support item assignment"

/-- The headers among entries. They have to stand in a tuple. -/
def headersAmong (entries : List (Value × Value)) : Except TypeExprError (List Value) :=
  match (entries.find? fun e => e.1.sameKey (.text Marks.headersName)).map Prod.snd with
  | none => .ok []
  | some (.tuple headers) => .ok headers
  | some v => .error (.notJoinable "tuple" v.kindName)

end Member

namespace DefinedClass

/-- The headers that marks left on a class. -/
def headerList (c : DefinedClass) : Except TypeExprError (List Value) :=
  match c.namespaceMap.get? marksName with
  | none => .ok []
  | some (.value (.dict entries)) => Member.headersAmong entries
  | some m => .error m.withoutGet

/-- The text that a class defines under a name. -/
def textMember? (c : DefinedClass) (name : String) : Option String :=
  match c.namespaceMap.get? name with
  | some (.value (.text s)) => some s
  | _ => none

/-- The class itself says whether it has type parameters. -/
def hasTypeParameters? (c : DefinedClass) : Option Bool :=
  match c.typeParameters with
  | some names => some !names.isEmpty
  | none => (c.namespaceMap.get? "__parameters__").map Member.isTrue

/-- What a class defines under a name does not stay there. -/
def isReplaced (c : DefinedClass) (name : String) : Bool :=
  name = "__qualname__" || (name = "__parameters__" && c.typeParameters.isSome)

/-- The class says that it belongs to another package than the one that holds it. -/
def isOfPackage (c : DefinedClass) (package : String) : Bool :=
  c.textMember? "__module__" = some package

end DefinedClass

/-- The classes defined so far, in order. -/
structure ClassTable where
  /-- The module that holds them. -/
  package : String
  classes : List DefinedClass := []
  /-- How many classes at the front can no longer be found by their names. -/
  forgotten : Nat := 0

namespace ClassTable

/-- The class of a name: the last one defined. -/
def find? (table : ClassTable) (name : String) : Option DefinedClass :=
  (table.classes.drop table.forgotten).reverse.find? fun c => c.definition.name == name

/-- The class of a number. -/
def get? (table : ClassTable) (index : Nat) : Option DefinedClass :=
  table.classes[index]?

/-- The name of an ancestor. -/
def ancestorName (table : ClassTable) : Ancestor → String
  | .object => "object"
  | .protocol => "Protocol"
  | .generic => "Generic"
  | .url => "URL"
  | .defined index => ((table.get? index).map fun c => c.definition.name).getD ""

/-- An ancestor and all its ancestors, itself first. -/
def ancestorsOf (table : ClassTable) : Ancestor → List Ancestor
  | .object => [.object]
  | .generic => [.generic, .object]
  | .protocol => [.protocol, .generic, .object]
  | .url => [.url, .object]
  | .defined index => ((table.get? index).map DefinedClass.ancestors).getD []

/-- The class of an ancestor. -/
def definedOf? (table : ClassTable) : Ancestor → Option DefinedClass
  | .defined index => table.get? index
  | _ => none

/-- The class and its ancestors that are defined in the table, itself first. -/
def lineage (table : ClassTable) (c : DefinedClass) : List DefinedClass :=
  c.ancestors.filterMap fun a =>
    if a = .defined c.index then some c else table.definedOf? a

/-- The type variables that a class leaves open: those collected for it, or for its nearest
ancestor for which some were. -/
def typeParametersOf (table : ClassTable) (c : DefinedClass) : List String :=
  ((table.lineage c).findSome? DefinedClass.typeParameters).getD []

/-- The class has type parameters, or says so. -/
def isParameterized (table : ClassTable) (c : DefinedClass) : Bool :=
  ((table.lineage c).findSome? DefinedClass.hasTypeParameters?).getD false

/-- What a class says of the package that it is from. -/
def claimOf (c : DefinedClass) : PackageClaim :=
  match c.namespaceMap.get? "__module__" with
  | none => .own
  | some (.value (.text package)) => .named package
  | some (.value .null) => .nowhere
  | some (.value v) => .unnamed v.display
  | some m => .unnamed s!"<{m.kindName} object>"

/-- A class as the types of declarations name it. A class takes arguments if
`Generic` is one of its ancestors. -/
def className (table : ClassTable) (c : DefinedClass) : ClassName :=
  { package := table.package
    name := c.definition.name
    identity := c.index
    claim := claimOf c
    longName := (c.textMember? "__qualname__").getD c.definition.name
    isUrl := c.ancestors.contains .url
    typeVariables := if .generic ∈ c.ancestors then some (table.typeParametersOf c) else none }

/-- An ancestor as the types of declarations name it. -/
def ancestorClassName (table : ClassTable) (self : DefinedClass) : Ancestor → ClassName
  | .object => .object
  | .protocol => { package := "typing", name := "Protocol" }
  | .generic => { package := "typing", name := "Generic" }
  | .url => .url
  | .defined index =>
    if index = self.index then table.className self
    else ((table.get? index).map table.className).getD .object

/-- The package of the classes within classes. -/
def innerPackage : String := "__main__"

/-- A member as the texts of types see it. -/
def knownMember : Member → KnownMember
  | .function f => .function (f.asKnown)
  | .sameAs _ => .property
  | .staticFunction f => .staticFunction (f.asKnown)
  | .classFunction f => .classFunction (f.asKnown)
  | .property => .property
  | .value v => .value (.ofValue v)
  | .place owner name =>
    .value (.other
      { kind := "member_descriptor"
        name := some name
        text := s!"<member '{name}' of '{owner}' objects>" })
  | .nested name => .nested { package := innerPackage, name }

/-- A base as the texts of types see it. -/
def baseType (table : ClassTable) : Base → TypeExpr
  | .object => .cls .object
  | .protocol => .cls { package := "typing", name := "Protocol" }
  | .url => .cls .url
  | .named name => named name
  | .genericForm args => .applied (.ofForm "Generic" "Generic") args
  | .protocolForm args => .applied (.ofForm "Protocol" "Protocol") args
  | .namedForm name args =>
    match (named name).apply (.tuple args) with
    | .ok t => t
    | .error _ => named name
where
  /-- The class of a name. -/
  named (name : String) : TypeExpr :=
    ((table.find? name).map fun c => .cls (table.className c)).getD .none

/-- A class as the texts of types see it. -/
def knownClass (table : ClassTable) (c : DefinedClass) : KnownClass :=
  { className := table.className c
    ancestors := c.ancestors.map (table.ancestorClassName c)
    bases := c.bases.map fun b => .cls (table.ancestorClassName c b)
    members :=
      ((c.namespaceMap.entries.filter fun e => !c.isReplaced e.1).map fun e =>
        (e.1, knownMember e.2)) ++ c.baseList.toList.map fun t => (baseListName, .value t) }

/-- The classes as the texts of types see them. -/
def knownClasses (table : ClassTable) : List KnownClass :=
  table.classes.map table.knownClass

/-! ### Calls of members -/

/-- Calls a member of a class with some arguments. A function gets the class in front of
them, and gives nothing back. -/
def callMember (member : Member) (args : List Unit) : Except ClassError Unit :=
  match member with
  | .function f | .classFunction f => callWith f (() :: args)
  | .staticFunction f => callWith f args
  | .nested name => if args.isEmpty then .ok () else .error (.takesNothing name)
  | .sameAs _ => .ok ()
  | m => .error (.notCallable m.kindName)
where
  /-- Calls a function. -/
  callWith (f : FunctionDef) (values : List Unit) : Except ClassError Unit :=
    match Signature.bind f.signature { values } with
    | .ok _ => .ok ()
    | .error e => .error (.call f.name e)

/-! ### Bases -/

/-- The member that is called with the arguments of a class. -/
def argumentsHookName : String := "__class_getitem__"

/-- What is called with the arguments of a class, if that is not done by `Generic`. -/
def argumentsHook? (table : ClassTable) (c : DefinedClass) : Option Member :=
  (c.ancestors.takeWhile (· ≠ .generic)).findSome? fun a =>
    ((table.definedOf? a).bind fun c => c.namespaceMap.get? argumentsHookName).filter fun m =>
      m.kindName != "NoneType"

/-- Checks the arguments of `Generic` or `Protocol`. -/
def checkVariables (form : String) (args : List TypeExpr) : Except ClassError Unit := do
  let args ← (args.mapM TypeExpr.asArgument).mapError .arguments
  if args.isEmpty then throw (.noVariables form)
  if args.any fun t => !(t matches .typeVar _) then throw (.otherThanVariables form)
  if (TypeExpr.distinct args).length ≠ args.length then throw (.repeatedVariable form)

/-- What a base among `bases` stands for, if it is a class. `Generic` with arguments adds
nothing when a different base with arguments follows the first place where it stands. -/
def resolveBase (table : ClassTable) (hasProtocol : Bool) (bases : List Base) (base : Base) :
    Except ClassError (List (Option Ancestor)) :=
  let named (name : String) : Except ClassError DefinedClass :=
    match table.find? name with
    | some c => .ok c
    | none => .error (.unknownBase name)
  match base with
  | .object => .ok [some .object]
  | .protocol => .ok [some .protocol]
  | .url => .ok [some .url]
  | .named name => (named name).map fun c => [some (.defined c.index)]
  | .genericForm args => do
    checkVariables "Generic" args
    let differs (other : Base) : Bool := other.genericVariables? != base.genericVariables?
    let bringsGeneric (other : Base) : Bool := other.isForm && differs other
    pure (if hasProtocol || (bases.dropWhile differs).any bringsGeneric then []
      else [some .generic])
  | .protocolForm args => do
    checkVariables "Protocol" args
    pure [some .protocol]
  | .namedForm name args => do
    let c ← named name
    match table.argumentsHook? c with
    | some member => do
      callMember member [()]
      pure [none]
    | none => do
      let _ ← (TypeExpr.applyClass (table.className c) args).mapError .arguments
      pure [some (.defined c.index)]

/-- What bases stand for. All have to be classes. -/
def resolveBases (table : ClassTable) (bases : List Base) : Except ClassError (List Ancestor) := do
  let hasProtocol := bases.any (· matches .protocol)
  let resolved := (← bases.mapM (table.resolveBase hasProtocol bases)).flatten
  if resolved.any Option.isNone then
    throw (if resolved.all Option.isNone then .noClass else .noClassAmongClasses)
  pure resolved.reduceOption

/-- What the names of a class stand for. -/
def namespaceOf (members : List (String × Member)) : OrderedMap String Member :=
  members.foldl (fun known e =>
    match e.2 with
    | .sameAs other => ((known.get? other).map (known.insert e.1)).getD known
    | m => known.insert e.1 m) .empty

/-- The first element that occurs again. -/
def firstRepeated? : List Ancestor → Option Ancestor
  | [] => none
  | a :: rest => if a ∈ rest then some a else firstRepeated? rest

/-- The type variables that bases leave open: those of `Generic` if it has
arguments, else all that occur. -/
def openVariables (bases : List Base) : Except ClassError (List String) :=
  let occurring := (TypeExpr.typeVariablesOf (bases.flatMap Base.args)).eraseDups
  match bases.filterMap Base.genericVariables? with
  | [] => .ok occurring
  | [listed] =>
    let missing := occurring.filter fun name => !listed.contains name
    if missing.isEmpty then .ok listed else .error (.unlistedVariables missing listed)
  | _ => .error .severalGenerics

/-- The name under which a class says that it is a protocol. -/
def protocolMarkName : String := "_is_protocol"

/-- The members of a class say that it is a protocol. -/
def isMarkedProtocol (members : OrderedMap String Member) : Bool :=
  (members.get? protocolMarkName).any Member.isTrue

/-- Whether a class is a protocol, if that is decided for it and not for an ancestor. -/
def isProtocol? (c : DefinedClass) : Option Bool :=
  if isMarkedProtocol c.namespaceMap then some true
  else if c.ancestors.contains .protocol then some (c.bases.contains .protocol)
  else (c.namespaceMap.get? protocolMarkName).map Member.isTrue

/-- The first base that is a class but no protocol. -/
def otherThanProtocol? (table : ClassTable) (bases : List Ancestor) : Option DefinedClass :=
  let isProtocol (c : DefinedClass) : Bool :=
    c.ancestors.contains .generic && ((table.lineage c).findSome? isProtocol?).getD false
  bases.findSome? fun b => (table.definedOf? b).filter fun c => !isProtocol c

/-- Checks that a protocol has no other bases than protocols. A class is a protocol if
`Protocol` is one of its bases, or if it says so. -/
def checkProtocol (table : ClassTable) (members : OrderedMap String Member)
    (bases : List Ancestor) : Except ClassError Unit :=
  if isMarkedProtocol members || bases.contains .protocol then
    match table.otherThanProtocol? bases with
    | some c => .error (.noProtocol (TypeExpr.classText (table.className c)))
    | none => .ok ()
  else .ok ()

/-! ### Places -/

/-- What the values of an ancestor hold. -/
def layoutOf (table : ClassTable) (a : Ancestor) : Layout :=
  if a = .url then { hasTable := true, hasWeakPlace := true }
  else ((table.definedOf? a).map DefinedClass.layout).getD {}

/-- One class is the other, or is derived from it. -/
def isDerived (table : ClassTable) (index other : Nat) : Bool :=
  (table.ancestorsOf (.defined index)).contains (.defined other)

/-- The base whose places the class takes over: the first one with the places of all
others. `best` is the best so far. -/
def bestBase (table : ClassTable) (best : Ancestor) :
    List Ancestor → Except ClassError Ancestor
  | [] => .ok best
  | b :: rest =>
    match (table.layoutOf best).owner, (table.layoutOf b).owner with
    | _, none => bestBase table best rest
    | none, some _ => bestBase table b rest
    | some own, some other =>
      if table.isDerived own other then bestBase table best rest
      else if table.isDerived other own then bestBase table b rest
      else .error .severalLayouts

/-- The names under which every class has something before its places are reserved. -/
def givenNames (d : ClassDef) : List String :=
  if d.bases.any Base.isForm then ["__module__", baseListName] else ["__module__"]

/-- What the values of a class hold, and its members with those for its own places. -/
def reserve (table : ClassTable) (d : ClassDef) (bases : List Ancestor)
    (members : OrderedMap String Member) :
    Except ClassError (Layout × OrderedMap String Member) := do
  let first ← table.bestBase (bases.headD .object) (bases.drop 1)
  let layouts := bases.map table.layoutOf
  let all : Layout :=
    { hasTable := layouts.any Layout.hasTable, hasWeakPlace := layouts.any Layout.hasWeakPlace }
  let (layout, own) ← (Layout.ofMembers table.classes.length d.name (table.layoutOf first) all
    (givenNames d) members).mapError .slot
  let withPlace (known : OrderedMap String Member) (name : String) : OrderedMap String Member :=
    known.insert name (.place d.name name)
  pure (layout, own.foldl withPlace members)

/-- Checks the members that only values of a certain kind may be. -/
def checkMembers (members : OrderedMap String Member) : Except ClassError Unit := do
  if let some m := members.get? "__qualname__" then
    if m.kindName ≠ "str" then throw (.unfitMember "__qualname__" m.kindName)
  if let some m := members.get? "__classcell__" then
    throw (.unfitMember "__classcell__" m.kindName)

/-! ### Ancestors that are told of a class -/

/-- The member that an ancestor calls with every class derived from it. -/
def hookName : String := "__init_subclass__"

/-- What an ancestor calls with every class derived from it. -/
def hook? (table : ClassTable) (a : Ancestor) : Option Member :=
  (table.definedOf? a).bind fun c => c.namespaceMap.get? hookName

/-- Checks the member that lists the bases, which a class may have of its own. No base is in
it, and so no type variable. -/
def checkBaseList (member : Member) : Except ClassError Unit :=
  match member with
  | .value (.list _) | .value (.tuple _) | .value (.dict _) => .ok ()
  | .staticFunction _ => .error (.noBaseList "function")
  | .classFunction _ => .error (.noBaseList "method")
  | m => .error (.noBaseList m.kindName)

/-- The type variables that a class leaves open. Bases with arguments are listed in place of
what the class has under the name of that list. -/
def collectVariables (d : ClassDef) (members : OrderedMap String Member) :
    Except ClassError (List String) :=
  match members.get? baseListName with
  | some member => do
    if d.bases.any Base.isForm then openVariables d.bases
    else
      checkBaseList member
      pure []
  | none => openVariables d.bases

/-- Tells the ancestors of a new class, nearest first, up to the first one that has a
function of its own for it. `Generic` collects the type variables of the class, and `Protocol`
checks its bases; they do so when the ancestors behind them are through. -/
def tellAncestors (table : ClassTable) (d : ClassDef) (members : OrderedMap String Member)
    (bases ancestors : List Ancestor) : Except ClassError (Option (List String)) := do
  let told := ancestors.takeWhile fun a => (table.hook? a).isNone
  if let some member := ancestors.findSome? table.hook? then callMember member []
  let typeParameters ← if told.contains .generic then some <$> collectVariables d members
    else pure none
  if told.contains .protocol then table.checkProtocol members bases
  pure typeParameters

/-! ### Definition -/

/-- All ancestors of a class with some bases, in one order. -/
def linearize (table : ClassTable) (bases : List Ancestor) : Except ClassError (List Ancestor) :=
  match Linearization.merge (bases.map table.ancestorsOf ++ [bases]) with
  | .ok order => .ok order
  | .error blocked => .error (.noOrder (blocked.map table.ancestorName))

/-- The names of a class with what one more mark leaves on it. -/
def mark (members : OrderedMap String Member) (d : Decorator) :
    Except TypeExprError (OrderedMap String Member) := do
  match members.get? marksName, d with
  | none, d | some (.value .null), d =>
    pure (members.insert marksName (.value (Marks.add .empty d).toValue))
  | some (.value (.dict entries)), .headers headers =>
    let earlier ← Member.headersAmong entries
    let headers := Value.tuple (headers ++ earlier)
    pure (members.insert marksName
      (.value (.dict (Value.setKey (.text Marks.headersName) headers entries))))
  | some (.value (.dict entries)), .requestLine v =>
    pure (members.insert marksName
      (.value (.dict (Value.setKey (.text Marks.requestLineName) v entries))))
  | some (.value (.dict entries)), .body v =>
    pure (members.insert marksName
      (.value (.dict (Value.setKey (.text Marks.bodyName) v entries))))
  | some m, .headers _ => throw m.withoutGet
  | some m, _ => throw m.withoutItems

/-- Defines one more class. Its marks are put on it when all else is done. -/
def define (table : ClassTable) (d : ClassDef) : Except ClassError ClassTable := do
  let resolved ← table.resolveBases d.bases
  let bases := if resolved.isEmpty then [Ancestor.object] else resolved
  let written := namespaceOf d.members
  let (layout, members) ← table.reserve d bases written
  if d.name.contains '\x00' then throw .nulInName
  checkMembers written
  if let some repeated := firstRepeated? bases then
    throw (.duplicateBase (table.ancestorName repeated))
  let ancestors ← table.linearize bases
  let typeParameters ← table.tellAncestors d members bases ancestors
  let index := table.classes.length
  let defined : DefinedClass :=
    { definition := d
      index
      bases
      ancestors := .defined index :: ancestors
      typeParameters
      namespaceMap := ← (d.decorators.reverse.foldlM mark members).mapError .mark
      layout
      baseList :=
        if d.bases.any Base.isForm then some (.tuple (d.bases.map table.baseType)) else none }
  pure { table with classes := table.classes ++ [defined] }

/-- The class of a name, and the table with it: a class that is not known yet is defined
without members. -/
def mention (table : ClassTable) (name : String) (isUrl : Bool) :
    Except ClassError (ClassTable × DefinedClass) := do
  match table.find? name with
  | some c => pure (table, c)
  | none =>
    let table ← table.define
      { name, bases := if isUrl then [.url] else [], isMentioned := true }
    match table.classes.getLast? with
    | some c => pure (table, c)
    | none => throw (.unknownBase name)

/-- The table without names for its classes, so that classes of the same names are new
ones. -/
def forgetting (table : ClassTable) : ClassTable :=
  { table with forgotten := table.classes.length }

/-- Defines classes in order. -/
def ofList (package : String) (classes : List ClassDef) : Except ClassError ClassTable :=
  classes.foldlM define { package }

end ClassTable

end HttpInterface
