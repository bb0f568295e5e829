import HttpInterface.Object.ErrorText
import HttpInterface.Object.FormMethod

/-!
# `HttpInterface.Object.Frozen`: values as they are at one moment

What a declaration keeps of a value is what the value is when its evaluation ends. A
frozen value holds all its parts. A part that holds itself is shown by dots.

Whatever does not depend on identity, such as texts and being equal, is found out on
frozen values.
-/

set_option autoImplicit false

namespace HttpInterface

/-! ### Things -/

namespace Thing

/-- A predefined function. -/
def ofPredefined (name : String) : Thing :=
  { kind := "builtin_function_or_method"
    name := some name
    text := s!"<built-in function {name}>" }

/-- A function of a module. -/
def ofModule (kind name : String) : Thing :=
  let word := if kind = "builtin_function_or_method" then "built-in function" else "function"
  { kind, name := some name, text := s!"<{word} {name}>" }

/-- The name is one of those that stand between double underscores. -/
def isSpecialName (name : String) : Bool :=
  let marked (cs : List Char) : Bool := ['_', '_'].isPrefixOf cs
  marked name.toList && marked name.toList.reverse

/-- The members that are values and no functions, by their classes. -/
def attributeNames : List (String × List String) :=
  [("int", ["real", "imag", "numerator", "denominator"]), ("float", ["real", "imag"])]

/-- The members that are kept as they are, by their classes. -/
def plainAttributeNames : List (String × List String) :=
  [("complex", ["real", "imag"]), ("range", ["start", "stop", "step"]),
   ("slice", ["start", "stop", "step"])]

/-- The names of a class in a table. -/
def listed (table : List (String × List String)) (owner name : String) : Bool :=
  ((table.lookup owner).getD []).contains name

/-- A member as the class of the value that has it has it. -/
def ofClassMember (owner name : String) : Thing :=
  let (kind, word) :=
    if listed attributeNames owner name then ("getset_descriptor", "attribute")
    else if listed plainAttributeNames owner name then ("member_descriptor", "member")
    else if isSpecialName name then ("wrapper_descriptor", "slot wrapper")
    else ("method_descriptor", "method")
  { kind, name := some name, text := s!"<{word} '{name}' of '{owner}' objects>" }

/-- A member of a built-in class with the value that it belongs to. -/
def ofBound (receiverKind name : String) : Thing :=
  if isSpecialName name then
    { kind := "method-wrapper"
      name := some name
      text := s!"<method-wrapper '{name}' of {receiverKind} object>" }
  else
    { kind := "builtin_function_or_method"
      name := some name
      text := s!"<built-in method {name} of {receiverKind} object>" }

end Thing

/-! ### Freezing -/

namespace ViewKind

/-- The name of the class of a view. -/
def className : ViewKind → String
  | keys => "dict_keys"
  | values => "dict_values"
  | items => "dict_items"

/-- What a view shows of entries. -/
def shown {α : Type} (pair : α → α → α) (entries : List (α × α)) : ViewKind → List α
  | keys => entries.map Prod.fst
  | values => entries.map Prod.snd
  | items => entries.map fun e => pair e.1 e.2

end ViewKind

namespace Object

mutual

/-- An object with the values of the places in it. -/
def frozenWith (content : Nat → TypeExpr) : Object → TypeExpr
  | .fixed t => t
  | .tuple items => .tuple (frozenAll content items)
  | .predefined name => .other (.ofPredefined name)
  | .moduleFunction kind _ name => .other (.ofModule kind name)
  | .memberOfClass owner name => .other (.ofClassMember owner name)
  | .stored place => content place

/-- Objects with the values of the places in them. -/
def frozenAll (content : Nat → TypeExpr) : List Object → List TypeExpr
  | [] => []
  | o :: rest => frozenWith content o :: frozenAll content rest

end

end Object

namespace Cell

/-- The name of a function that is kept in a cell. -/
def functionName? : Cell → Option String
  | .closure _ => some "<lambda>"
  | .written f => some f.name
  | _ => none

/-- The kind of a value of a class. -/
def nameOfClass : TypeExpr → String
  | .cls c => c.name
  | t => t.name

/-- The text of a value that a value of a derived class holds, where that text names the
derived class, or where the value of the derived class does not count as the value itself. -/
def derivedText? (className : String) (value : TypeExpr) : Option String :=
  match value with
  | .set [] | .frozenSet [] => some (className ++ "()")
  | .set items | .frozenSet items =>
    some (className ++ "(" ++ (TypeExpr.set items).valueText ++ ")")
  | .tuple _ => some value.valueText
  | .dict _ _ =>
    if className = "mappingproxy" then some (className ++ "(" ++ value.valueText ++ ")") else none
  | .other { kind := "bytearray", text, .. } =>
    some (className ++ String.ofList (text.toList.dropWhile (· != '(')))
  | _ => none

/-- What classes that are made in an evaluation are told apart by lies behind what others
are told apart by. -/
def firstMade : Nat := 1000000

/-- The value of a cell that does not hold itself; `content` gives the values of places,
and `nameAt` the names of the functions there. -/
def frozen (content : Nat → TypeExpr) (place : Nat) (c : Cell) : TypeExpr :=
  let inner := Object.frozenWith content
  let named (kind : String) (name : Option String) (text : String) : TypeExpr :=
    .other { kind, name, text, identity := some place }
  let shown (o : Object) : String := (inner o).valueText
  match c with
  | .list items => .list (items.toList.map inner)
  | .set items isFrozen =>
    if isFrozen then .frozenSet (items.map inner) else .set (items.map inner)
  | .dict entries => .dict (entries.map fun e => inner e.1) (entries.map fun e => inner e.2)
  | .byteArray bs =>
    .other
      { kind := "bytearray", name := none, text := "bytearray(" ++ Text.quotedBytes bs ++ ")" }
  | .memory _ _ => named "memoryview" none "<memory>"
  | .range start stop step =>
    let last := if step = 1 then "" else s!", {step}"
    .other { kind := "range", name := none, text := s!"range({start}, {stop}{last})" }
  | .slice start stop step =>
    .other
      { kind := "slice"
        name := none
        text := s!"slice({shown start}, {shown stop}, {shown step})" }
  | .closure f => named "function" (some "<lambda>") s!"<function {f.path}>"
  | .written f => named "function" (some f.name) s!"<function {f.name}>"
  | .bound (.fixed t) owner name =>
    if FormMethod.owners.contains owner then
      named "method" (some name) s!"<bound method {owner}.{name} of {t.valueText}>"
    else .other { Thing.ofBound t.kindName name with identity := some place }
  | .bound receiver _ name =>
    .other { Thing.ofBound (inner receiver).kindName name with identity := some place }
  | .boundFunction _ f =>
    let name := (inner f).name
    named "method" (some name) s!"<bound method {name}>"
  | .wrapped kind f => named kind (some (inner f).name) s!"<{kind}({shown f})>"
  | .property _ => named "property" none "<property object>"
  | .error cls base args _ =>
    let args := args.map inner
    let kind := nameOfClass (inner cls)
    .other
      { kind
        name := none
        text := ErrorText.shown kind base args
        plainText := some (ErrorText.plain base args)
        identity := some place }
  | .iterator kind source =>
    let name :=
      if source matches .paused _ then some "<lambda>"
      else if kind = "generator" || kind = "async_generator" then some "<genexpr>"
      else none
    named kind name s!"<{kind} object>"
  | .view kind place =>
    let entries := match content place with
      | .dict keys values => keys.zip values
      | _ => []
    let items := kind.shown (fun a b => .tuple [a, b]) entries
    named kind.className none (kind.className ++ "(" ++ (TypeExpr.list items).valueText ++ ")")
  | .instance cls (("status_code", status) :: ("reason_phrase", phrase) :: _) =>
    named (nameOfClass (inner cls)) none
      s!"<Response [{(inner status).plainText} {(inner phrase).plainText}]>"
  | .instance cls attributes =>
    let c := inner cls
    let kept (name : String) : Option String := (attributes.lookup name).bind Object.text?
    let shown? := kept ".shown"
    let plain? := (kept ".plain").or shown?
    let held? := (attributes.lookup ".value").map inner
    match held?, plain?, held?.bind (derivedText? (nameOfClass c)) with
    | some value, none, none => value
    | _, _, derived? =>
      .other
        { kind := nameOfClass c
          name := none
          text := shown?.getD (derived?.getD s!"<{TypeExpr.textAs .inForm c} object>")
          plainText :=
            if nameOfClass c = "mappingproxy" then held?.map TypeExpr.valueText else plain?
          identity := some place }
  | .madeClass name bases members =>
    let isUrl (base : Object) : Bool :=
      match inner base with
      | .cls c => c.isUrl
      | _ => false
    .cls
      { package := ((members.lookup "__module__").bind Object.text?).getD ""
        name
        identity := firstMade + place
        isUrl := bases.any isUrl }
  | .scope _ _ _ => .none

/-- The value of a cell that holds itself. -/
def frozenAgain : Cell → TypeExpr
  | .list _ => .other { kind := "list", name := none, text := "[...]" }
  | .dict _ => .other { kind := "dict", name := none, text := "\x7b...\x7d" }
  | _ => .other { kind := "object", name := none, text := "..." }

end Cell

namespace Store

/-- The value at a place; `path` are the places that hold it, and `fuel` bounds how
many these may be. -/
def frozenAt (store : Store) (fuel : Nat) (path : List Nat) (place : Nat) : TypeExpr :=
  match fuel, store.cells[place]? with
  | fuel + 1, some c =>
    if path.contains place then c.frozenAgain
    else c.frozen (store.frozenAt fuel (place :: path)) place
  | _, _ => .none

/-- An object as it is now. -/
def frozen (store : Store) (o : Object) : TypeExpr :=
  o.frozenWith (store.frozenAt (store.cells.size + 1) [])

end Store

namespace Evaluation

/-- An object as it is now. -/
def frozen (o : Object) : Evaluation TypeExpr := do
  pure ((← get).frozen o)

/-- Objects as they are now. -/
def frozenAll (items : List Object) : Evaluation (List TypeExpr) := items.mapM frozen

/-- Checks that the text of a value may be told. -/
def checkTellable (t : TypeExpr) : Evaluation Unit :=
  if t.isTellable then pure () else throw .tooManyDigits

/-- How an object is shown. -/
def shownText (o : Object) : Evaluation String := do
  let t ← frozen o
  checkTellable t
  pure t.valueText

/-- An object as a reader sees it. -/
def plainText (o : Object) : Evaluation String := do
  let t ← frozen o
  checkTellable t
  pure t.plainText

/-- The kind of an object, as errors name it. -/
def kindName (o : Object) : Evaluation String := do
  match ← cellOf? o with
  | some (.instance cls _) => pure (Cell.nameOfClass (← frozen cls))
  | _ => pure (← frozen o).kindName

/-- Both objects are equal. -/
def same (a b : Object) : Evaluation Bool := do
  pure ((← frozen a).same (← frozen b))

/-- Checks that an object can be told apart from others at once. -/
def checkHashable (o : Object) : Evaluation Unit := do
  match (← frozen o).unhashableKind? with
  | some kind => throw (.unhashable kind)
  | none => pure ()

end Evaluation

namespace Object

mutual

/-- The object that a frozen value is. Values that can change get new places. -/
def ofType : TypeExpr → Evaluation Object
  | .tuple items => do pure (.tuple (← ofTypes items))
  | .list items => do Evaluation.makeList (← ofTypes items)
  | .set items => do Evaluation.make (.set (← ofTypes items) false)
  | .frozenSet items => do Evaluation.make (.set (← ofTypes items) true)
  | .dict keys values => do
    let keys ← ofTypes keys
    let values ← ofTypes values
    Evaluation.make (.dict (keys.zip values))
  | t => pure (.fixed t)

/-- The objects that frozen values are. -/
def ofTypes : List TypeExpr → Evaluation (List Object)
  | [] => pure []
  | t :: rest => do
    let o ← ofType t
    pure (o :: (← ofTypes rest))

end

/-- The object that a type is, if there is one. -/
def ofResult (r : Except TypeExprError TypeExpr) : Evaluation Object := do
  match r with
  | .ok t => ofType t
  | .error e => throw e

end Object

end HttpInterface
