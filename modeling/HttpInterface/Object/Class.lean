import HttpInterface.Class.Linearization
import HttpInterface.Object.Frozen
import HttpInterface.Predefined.Class

/-!
# `HttpInterface.Object.Class`: the classes of values

Every value is of a class, and a class is derived from others. A value is an instance of
its class and of all classes that this is derived from. A test may ask for several
classes at once; forms of types with arguments are refused in a test.
-/

set_option autoImplicit false

namespace HttpInterface

namespace TypeExpr

/-- The class of a value. -/
def classOf (t : TypeExpr) : TypeExpr :=
  match t with
  | .none => .noneType
  | t =>
    let kind := t.kindName
    if kind = "URL" then .cls { package := "httpx", name := kind, isUrl := true }
    else if t.isForm || kind = "_AnyMeta" then .cls { package := "typing", name := kind }
    else if kind.startsWith "types." then
      .cls { package := "types", name := (kind.drop 6).toString }
    else builtin kind

/-- The name of a class that has no package. -/
def builtinName? : TypeExpr → Option String
  | .cls c => if c.package.isEmpty then some c.name else Option.none
  | .noneType => some "NoneType"
  | _ => Option.none

/-- The value is a class. -/
def isClass : TypeExpr → Bool
  | .cls _ | .noneType => true
  | _ => false

end TypeExpr

namespace ClassName

/-- A class without a package. -/
def ofBuiltin (name : String) : ClassName := { package := "", name }

/-- The class from which all others are derived. -/
def object : ClassName := ofBuiltin "object"

/-- The URL class. -/
def url : ClassName := { package := "httpx", name := "URL", isUrl := true }

/-- Both names are those of one class. -/
def isSame (c d : ClassName) : Bool :=
  c.package == d.package && c.name == d.name && c.identity == d.identity

end ClassName

namespace Evaluation

/-- What is known of a class. -/
def knownClass? (c : ClassName) : Evaluation (Option KnownClass) := do
  pure ((← get).classes.find? fun k => k.className.isSame c)

/-- A class and all that it is derived from, itself first. -/
def ancestorsOf (c : ClassName) : Evaluation (List ClassName) := do
  if c.package.isEmpty then pure ((Predefined.ancestors c.name).map .ofBuiltin)
  else
    match ← knownClass? c with
    | some known =>
      if known.ancestors.isEmpty then pure (direct c) else pure known.ancestors
    | none => pure (direct c)
where
  direct (c : ClassName) : List ClassName :=
    if c.package = "collections" && ["OrderedDict", "Counter", "defaultdict"].contains c.name then
      [c, .ofBuiltin "dict", .object]
    else if c.isUrl && c.name != "URL" then [c, .url, .object] else [c, .object]

/-- The class of an object. -/
def classOf (o : Object) : Evaluation Object := do
  match ← cellOf? o with
  | some (.instance cls _) => pure cls
  | some (.error cls _ _ _) => pure cls
  | some (.madeClass ..) => pure (.builtinClass "type")
  | _ => pure (.fixed (← frozen o).classOf)

/-- The class that an object is, if it is one of the classes that have a name. -/
def className? : Object → Option ClassName
  | .fixed (.cls c) => some c
  | .fixed .noneType => some (.ofBuiltin "NoneType")
  | _ => none

/-- What tells a class from all others. -/
def classKey : Object → String × Nat
  | .stored place => ("", place)
  | o =>
    match className? o with
    | some c => (TypeExpr.qualified c.package c.name, c.identity)
    | none => ("", 0)

/-- Rows of classes in one order, or the classes that block each other. -/
def linearized (rows : List (List Object)) : Except (List Object) (List Object) :=
  let all := rows.flatten
  let ofKeys (keys : List (String × Nat)) : List Object :=
    keys.filterMap fun k => all.find? fun c => classKey c == k
  match Linearization.merge (rows.map fun row => row.map classKey) with
  | .ok keys => .ok (ofKeys keys)
  | .error keys => .error (ofKeys keys)

/-- The bases of a made class; one without any is derived from `object`. -/
def madeBases (bases : List Object) : List Object :=
  if bases.isEmpty then [.builtinClass "object"] else bases

/-- The classes that a class was made from, nearest first, and the class itself in front;
`fuel` bounds how many classes were made one from the other. -/
def lineage (fuel : Nat) (c : Object) : Evaluation (List Object) := do
  match className? c with
  | some name => pure ((← ancestorsOf name).map fun a => .fixed (.cls a))
  | none =>
    match fuel, ← cellOf? c with
    | fuel + 1, some (.madeClass _ bases _) => do
      let bases := madeBases bases
      match linearized ((← bases.mapM (lineage fuel)) ++ [bases]) with
      | .ok above => pure (c :: above)
      | .error _ => pure [c]
    | _, _ => pure []

/-- How deep made classes are derived from each other. -/
def maxLineage : Nat := 50

/-- Both objects are one and the same. -/
def identical (a b : Object) : Evaluation Bool := do
  match a, b with
  | .stored i, .stored j => pure (i == j)
  | .stored _, _ | _, .stored _ => pure false
  | .predefined m, .predefined n => pure (m == n)
  | .moduleFunction _ m n, .moduleFunction _ k l => pure (m == k && n == l)
  | .memberOfClass c m, .memberOfClass d n => pure (c == d && m == n)
  | a, b => pure ((← frozen a).identical (← frozen b))

/-- Both classes are one and the same. -/
def isSameClass (a b : Object) : Evaluation Bool := do
  match className? a, className? b with
  | some c, some d => pure (c.isSame d)
  | _, _ => identical a b

/-- The class is derived from another. -/
def isDerived (c d : Object) : Evaluation Bool := do
  (← lineage maxLineage c).anyM (isSameClass d)

/-! ### What classes are given -/

/-- The members that a known class was given, as values. -/
def ownMembers (c : ClassName) : Evaluation (List (String × Object)) := do
  let store ← get
  match (store.classes.zip store.classMembers).find? fun e => e.1.className.isSame c with
  | some (_, members) => pure members
  | none => pure []

/-- A member that a known class was given. -/
def ownMember? (c : ClassName) (name : String) : Evaluation (Option Object) := do
  pure ((← ownMembers c).lookup name)

/-- A member that a class takes from itself or from what it is derived from, with the
class that has it. -/
def inheritedMember? (c : Object) (name : String) : Evaluation (Option (Object × Object)) := do
  (← lineage maxLineage c).findSomeM? fun a => do
    match className? a, ← cellOf? a with
    | some d, _ => do pure ((← ownMember? d name).map fun o => (a, o))
    | none, some (.madeClass _ _ members) => pure ((members.lookup name).map fun o => (a, o))
    | none, _ => pure none

/-- A function of a class as a value of the class has it. -/
def bindFunction (receiver cls f : Object) : Evaluation Object := do
  match ← cellOf? f with
  | some (.closure _) | some (.written _) => make (.boundFunction receiver f)
  | some (.wrapped "classmethod" inner) => make (.boundFunction cls inner)
  | some (.wrapped _ inner) => pure inner
  | some (.property _) => pure .none
  | _ => pure f

/-- A function of a class as the class has it. -/
def functionOfClass (cls f : Object) : Evaluation Object := do
  match ← cellOf? f with
  | some (.wrapped "classmethod" inner) => make (.boundFunction cls inner)
  | some (.wrapped _ inner) => pure inner
  | _ => pure f

/-- The predefined class that a class is or is derived from first. -/
def predefinedBase (c : Object) : Evaluation ClassName := do
  let named := (← lineage maxLineage c).filterMap className?
  pure ((named.find? fun d => d.package.isEmpty || d.package = "httpx").getD .object)

/-- The object is a class. -/
def isClass (o : Object) : Evaluation Bool := do
  match ← cellOf? o with
  | some (.madeClass ..) => pure true
  | some _ => pure false
  | none => pure ((className? o).isSome)

/-! ### Tests -/

/-- Which of the two tests is made. -/
inductive ClassTest where
  | isInstance
  | isSubclass
  deriving DecidableEq, Repr

/-- The name of the function that makes a test. -/
def ClassTest.functionName : ClassTest → String
  | isInstance => "isinstance"
  | isSubclass => "issubclass"

/-- What is said of something that is no class to test for. -/
def ClassTest.noClassMessage : ClassTest → String
  | isInstance => "isinstance() arg 2 must be a type, a tuple of types, or a union"
  | isSubclass => "issubclass() arg 2 must be a class, a tuple of classes, or a union"

/-- What is said of types with arguments. -/
def formRefused : String := "Subscripted generics cannot be used with class and instance checks"

/-- A test of a class against a declared type. -/
def testAgainstType (test : ClassTest) (c : Object) : TypeExpr → Evaluation Bool
  | .cls d =>
    if d.isAny && test = .isInstance then typeError "typing.Any cannot be used with isinstance()"
    else checked c (isDerived c (.fixed (.cls d)))
  | .noneType => checked c (isDerived c (.builtinClass "NoneType"))
  | .bare head =>
    if head.isSpecial then
      typeError s!"typing.{head.name} cannot be used with {test.functionName}()"
    else
      match test, c with
      | .isSubclass, .fixed (.bare other) =>
        isDerived (.builtinClass other.origin) (.builtinClass head.origin)
      | .isSubclass, .fixed (.applied other _) =>
        if other.isContainer then isDerived c (.builtinClass head.origin)
        else typeError formRefused
      | _, _ => checked c (isDerived c (.builtinClass head.origin))
  | .applied head _ =>
    if head.isContainer then
      typeError s!"{test.functionName}() argument 2 cannot be a parameterized generic"
    else typeError formRefused
  | .literal _ | .annotated _ _ => typeError formRefused
  | .union members => anyMember .isSubclass members
  | .bars members =>
    if members.any isContainer then
      typeError s!"{test.functionName}() argument 2 cannot be a parameterized generic"
    else anyMember test members
  | .tuple items => anyMember test items
  | _ => checked c (typeError test.noClassMessage)
where
  /-- The first argument of the test for derived classes has to be a class. -/
  checked (c : Object) (next : Evaluation Bool) : Evaluation Bool := do
    if test = .isSubclass && !(← isClass c) then typeError "issubclass() arg 1 must be a class"
    next
  isContainer : TypeExpr → Bool
    | .applied head _ => head.isContainer
    | _ => false
  /-- One of the types passes the test. -/
  anyMember (test : ClassTest) : List TypeExpr → Evaluation Bool
    | [] => pure false
    | t :: rest => do
      if ← testAgainstType test c t then pure true else anyMember test rest

/-- A test of a class against a class, or several of them. -/
def testClass (test : ClassTest) (c : Object) : Object → Evaluation Bool
  | .fixed t => testAgainstType test c t
  | .tuple items => anyOf items
  | .stored place => do
    match ← cell? place with
    | some (.madeClass ..) => isDerived c (.stored place)
    | _ => refuse test c
  | _ => refuse test c
where
  /-- The second argument is no class. That the first one is none is said before. -/
  refuse (test : ClassTest) (c : Object) : Evaluation Bool := do
    if test = .isSubclass && !(← isClass c) then typeError "issubclass() arg 1 must be a class"
    typeError test.noClassMessage
  /-- One of the classes passes the test. -/
  anyOf : List Object → Evaluation Bool
    | [] => pure false
    | o :: rest => do
      if ← testClass test c o then pure true else anyOf rest

/-- The object is an instance of a class, or of one of several. -/
def isInstanceOf (o test : Object) : Evaluation Bool := do
  testClass .isInstance (← classOf o) test

end Evaluation

end HttpInterface
