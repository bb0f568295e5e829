import HttpInterface.Expression.Depth
import HttpInterface.Expression.Grammar
import HttpInterface.TypeExpr.Error
import HttpInterface.TypeExpr.Form

/-!
# `HttpInterface.TypeExpr.Build`: comparing types and putting choices together

Types are the same if all their parts are, with both kinds of choice compared as
sets, and dictionaries key by key. A choice is flat and holds no member twice; with one
member left it is that member.
-/

set_option autoImplicit false

namespace HttpInterface

namespace TypeExpr

/-! ### Comparison -/

/-- Every type passes some test, and every test is passed by some type. -/
def covers (tests : List (TypeExpr → Bool)) (types : List TypeExpr) : Bool :=
  tests.all types.any && types.all fun t => tests.any fun test => test t

/-- Every type passes the test at its place, and there are as many of both. -/
def matchesAll (tests : List (TypeExpr → Bool)) (types : List TypeExpr) : Bool :=
  tests.length == types.length && (tests.zipWith (fun test t => test t) types).all id

mutual

/-- Both types are the same: choices as sets, all else part by part. -/
def same : TypeExpr → TypeExpr → Bool
  | .none, .none => true
  | .noneType, .noneType => true
  | .cls c, .cls d => c == d
  | .typeVar m, .typeVar n => m == n
  | .bare h, .bare k => h == k
  | .text s, .text t => s == t
  | .deferred s, .deferred t => s == t
  | .applied h args, .applied k others => h == k && matchesAll (sameAs args) others
  | .unpacked t, .unpacked u => same t u
  | .union members, .union others => covers (sameAs members) others
  | .union members, .bars others => covers (sameAs members) others
  | .bars members, .union others => covers (sameAs members) others
  | .bars members, .bars others => covers (sameAs members) others
  | .literal values, .literal others =>
    values.all (others.contains ·) && others.all (values.contains ·)
  | .annotated base markers, .annotated second notes => same base second && markers == notes
  | .constant c, .constant d => c.same d
  | .tuple items, .tuple others => matchesAll (sameAs items) others
  | .list items, .list others => matchesAll (sameAs items) others
  | .set items, .set others | .set items, .frozenSet others
  | .frozenSet items, .set others | .frozenSet items, .frozenSet others =>
    covers (sameAs items) others
  | .dict keys values, .dict others more =>
    let tests := (sameAs keys).zip (sameAs values)
    tests.length == others.length &&
      tests.all fun test => (others.zip more).any fun e => test.1 e.1 && test.2 e.2
  | .other thing, .other another => thing == another
  | _, _ => false

/-- For each type the test of being the same. -/
def sameAs : List TypeExpr → List (TypeExpr → Bool)
  | [] => []
  | t :: rest => same t :: sameAs rest

end

/-- Keeps the first of types that are the same. -/
def distinct (types : List TypeExpr) : List TypeExpr :=
  types.foldl (fun kept t => if kept.any (same t) then kept else kept ++ [t]) []

/-! ### Types in the place of a type -/

/-- Checks a text that is to be looked up later: it has to be an expression. A text
that starts with `*` stands for the first of the elements that it takes. -/
def checkText (s : String) : Except TypeExprError Expression := do
  if s.isEmpty then throw .emptyText
  if s.toList.contains '\x00' then throw .nulInText
  let source := if s.toList.head? = some '*' then "(" ++ s ++ ",)[0]" else s
  match Expression.read? source with
  | some e =>
    if Expression.maxLevels ≤ e.levels + Expression.levelsOfGroup then throw .tooManyLevels
    if Expression.maxDepth < e.depth then throw .tooDeep
    pure e
  | Option.none => throw (.noExpression s)

/-- A type as an argument of a generic form: having no type is the type of having
no value, and a text is looked up later. -/
def asArgument (t : TypeExpr) : Except TypeExprError TypeExpr :=
  match t with
  | .none => .ok .noneType
  | .text s => do
    let _ ← checkText s
    pure (.deferred s)
  | t => .ok t

/-- A value in a place where only a type may stand: no tuple, and no form that
needs arguments. -/
def asType (place : TypePlace) (t : TypeExpr) : Except TypeExprError TypeExpr := do
  match ← t.asArgument with
  | .tuple items =>
    if !areTellable items then throw .tooManyDigits
    throw (.noType place (valueText (.tuple items)))
  | .bare head =>
    if head.isSpecial && !TypeHead.soleForms.contains head.name then
      throw (.plainForm (shown (.bare head)))
    pure (.bare head)
  | .cls c =>
    if c.package = "typing" && barredClasses.contains c.name then
      throw (.plainForm (classText c))
    pure (.cls c)
  | .applied head args =>
    if head.package = "typing" && barredForms.contains head.name then
      throw (.barredForm (shown (.applied head args)))
    pure (.applied head args)
  | t => pure t

/-! ### Choices -/

/-- The members of a choice, a type that is none as its only member. -/
def members : TypeExpr → List TypeExpr
  | .union ms => ms
  | .bars ms => ms
  | t => [t]

/-- The kinds of values that can change, which are not told apart from others at once. -/
def unhashableKinds : List String :=
  ["list", "dict", "set", "bytearray", "slice", "dict_keys", "dict_items", "mappingproxy"]

mutual

/-- The kind of a value, or of a part of it, that is not told apart from others at once. -/
def unhashableKind? (t : TypeExpr) : Option String :=
  match t with
  | .tuple items => unhashableAmong? items
  | .applied _ args => unhashableAmong? args
  | .bars members => unhashableAmong? members
  | t => if unhashableKinds.contains t.kindName then some t.kindName else Option.none

/-- The first kind among those of values that is not told apart from others at once. -/
def unhashableAmong? : List TypeExpr → Option String
  | [] => Option.none
  | t :: rest => (unhashableKind? t).or (unhashableAmong? rest)

end

/-- The choice `Union[..]` of some types. -/
def unionOf (types : List TypeExpr) : Except TypeExprError TypeExpr := do
  let checked ← types.mapM (asType .member)
  let flat := checked.flatMap members
  if let some kind := flat.findSome? unhashableKind? then throw (.unhashable kind)
  match distinct flat with
  | [one] => pure one
  | members => pure (.union members)

/-- A type or nothing, as a member of a choice with bars. -/
def barMember : TypeExpr → TypeExpr
  | .none => .noneType
  | t => t

/-- The choice with bars of some types. -/
def barsOf (types : List TypeExpr) : TypeExpr :=
  match distinct (types.flatMap fun t => members (barMember t)) with
  | [one] => one
  | members => .bars members

/-- A value that takes part in a choice with bars as it is. -/
def isBarMember (t : TypeExpr) : Bool :=
  match t with
  | .none | .noneType | .cls _ | .bars _ | .unpacked _ => true
  | .applied _ _ => !t.isForm
  | _ => false

/-- Having no type, on both sides of a bar. -/
def areNone : TypeExpr → TypeExpr → Bool
  | .none, .none => true
  | _, _ => false

/-- The type `a | b`. A form on either side makes it a choice `Union[..]`. -/
def bar (a b : TypeExpr) : Except TypeExprError TypeExpr :=
  if a.isBarMember && b.isBarMember && !areNone a b then .ok (barsOf [a, b])
  else if a.isForm || b.isForm then unionOf [a, b]
  else .error (.operands "|" a.kindName b.kindName)

/-- The types with bars between them, read from the left. -/
def barAll : List TypeExpr → Except TypeExprError TypeExpr
  | [] => .ok .none
  | t :: rest => rest.foldlM bar t

/-! ### Other types -/

/-- A type with markers; those of a type marked already come first. -/
def mark (base : TypeExpr) (markers : List Marker) : Except TypeExprError TypeExpr := do
  if markers.isEmpty then throw .unmarked
  match ← base.asType .marked with
  | .annotated inner earlier => pure (.annotated inner (earlier ++ markers))
  | base => pure (.annotated base markers)

/-- A literal type; a value given twice counts once. -/
def literalOf (values : List Constant) : TypeExpr :=
  .literal values.eraseDups

/-- The types that have a name of their own. -/
def ofName? (name : String) : Option TypeExpr :=
  if name ∈ ["str", "int", "float", "bool", "bytes", "list", "dict", "tuple", "set", "object"] then
    some (builtin name)
  else if name = "Any" then some any
  else if name = "URL" then some (.cls { package := "httpx", name, isUrl := true })
  else if name = "Response" then some (.cls { package := "httpx", name })
  else if name = "T" ∨ name = "U" then some (.typeVar name)
  else if name = "List" then some (.bare (.ofForm "List" "list"))
  else if name = "Dict" then some (.bare (.ofForm "Dict" "dict"))
  else if name = "Optional" ∨ name = "Union" then some (.bare (.ofForm name name))
  else Option.none

end TypeExpr

end HttpInterface
