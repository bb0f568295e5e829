import HttpInterface.Predefined.Function

/-!
# `HttpInterface.Predefined.OtherClass`: values of the classes of other packages

Collections that are made of others, rows that are gone through in some order, calls that are
put off, and the types that a module makes. A value of such a class holds a value of a
predefined one where it can do all that this can.
-/

set_option autoImplicit false

namespace HttpInterface.Predefined

open Evaluation

/-! ### Rows -/

/-- Every choice of one item from each row, the last row first. -/
def choices {α : Type} : List (List α) → List (List α)
  | [] => [[]]
  | row :: rest => row.flatMap fun item => (choices rest).map (item :: ·)

/-- The items of a row in every selection of so many, in order. -/
def combinations {α : Type} : Nat → List α → List (List α)
  | 0, _ => [[]]
  | _ + 1, [] => []
  | k + 1, item :: rest =>
    (combinations k rest).map (item :: ·) ++ combinations (k + 1) rest

/-- The items of a row in every arrangement of so many. -/
def arrangements {α : Type} : Nat → List α → List (List α)
  | 0, _ => [[]]
  | k + 1, items =>
    items.zipIdx.flatMap fun (item, i) => (arrangements k (items.eraseIdx i)).map (item :: ·)

/-- What is made of a row step by step. -/
def accumulated (engine : Engine) (f : Object) : List Object → Evaluation (List Object)
  | [] => pure []
  | first :: rest => do
    let join (a b : Object) : Evaluation Object :=
      if f.isNone then combine engine .plus a b else engine.call f { values := [a, b] }
    let made ← rest.foldlM (fun (made : List Object × Object) o => do
      let next ← join made.2 o
      pure (next :: made.1, next)) ([first], first)
    pure made.1.reverse

/-- The most selections that are made of a row. -/
def maxSelected : Nat := 10

/-- The items that an iterator of a row gives, in order. -/
def selected? (engine : Engine) (name : String) (args : ArgumentList Object) :
    Evaluation (Option (List Object)) := do
  let first := args.values.headD .none
  let second := args.values.getD 1 .none
  let tuples (rows : List (List Object)) : Option (List Object) := some (rows.map .tuple)
  match name with
  | "chain" => do pure (some (← args.values.mapM (elements engine)).flatten)
  | "repeat" => do
    let times ← countOr 0 (args.values[1]?)
    if args.values.length < 2 then pure none
    else pure (some (List.replicate times.toNat first))
  | "product" => do pure (tuples (choices (← args.values.mapM (elements engine))))
  | "combinations" => do
    let k ← demandInt second
    if k < 0 then valueError "r must be non-negative"
    pure (tuples (combinations k.toNat (← elements engine first)))
  | "permutations" => do
    let items ← elements engine first
    let k ← countOr items.length (args.values[1]?)
    if k < 0 then valueError "r must be non-negative"
    if maxSelected < k then raise "MemoryError" ""
    pure (tuples (arrangements k.toNat items))
  | "pairwise" => do
    let items ← elements engine first
    pure (tuples ((items.zip (items.drop 1)).map fun e => [e.1, e.2]))
  | "accumulate" => do
    pure (some (← accumulated engine second (← elements engine first)))
  | "islice" => do
    let bounds ← args.values.tail.mapM fun o => do
      if o.isNone then pure none else some <$> demandInt o
    let items ← elements engine first
    let place (i : Nat) (usual : Nat) : Nat := (((bounds[i]?).join).map Int.toNat).getD usual
    let (start, stop, step) :=
      if bounds.length = 1 then (0, place 0 items.length, 1)
      else (place 0 0, place 1 items.length, place 2 1)
    let kept := (items.take stop).zipIdx.filter fun e =>
      start ≤ e.2 && (e.2 - start) % (if step = 0 then 1 else step) = 0
    pure (some (kept.map Prod.fst))
  | "starmap" => do
    let rows ← (← elements engine second).mapM (elements engine)
    some <$> rows.mapM fun row => engine.call first { values := row }
  | "takewhile" | "dropwhile" | "filterfalse" => do
    let items ← elements engine second
    let marks ← items.mapM fun o => do truth engine (← engine.call first { values := [o] })
    let marked := items.zip marks
    let kept := match name with
      | "takewhile" => marked.takeWhile Prod.snd
      | "dropwhile" => marked.dropWhile Prod.snd
      | _ => marked.filter fun e => !e.2
    pure (some (kept.map Prod.fst))
  | _ => pure none

/-! ### Collections -/

/-- How often every item occurs in a row, the most frequent first in texts. -/
def countItems (items : List Object) : Evaluation (List (Object × Object)) :=
  items.foldlM (fun counted o => do
    let before := (((← findEntry? counted o).map Prod.snd).bind Object.int?).getD 0
    Evaluation.setEntry counted o (.int (before + 1))) []

/-- A value of a class that holds another value, with its text. -/
def holding (cls held : Object) (shown : String) : Evaluation Object :=
  make (.instance cls [(heldName, held), (textNames.1, .text shown)])

/-- A collection of the module of collections. -/
def collect? (engine : Engine) (cls : Object) (name : String) (args : ArgumentList Object) :
    Evaluation (Option Object) := do
  let first := args.values.headD .none
  match name with
  | "OrderedDict" => do
    let entries ← dictEntries (← entriesOfCall engine name args)
    let pairs ← shownText (← makeList (entries.map fun e => .tuple [e.1, e.2]))
    let shown := if entries.isEmpty then s!"{name}()" else s!"{name}({pairs})"
    some <$> holding cls (← makeDict entries) shown
  | "Counter" => do
    let entries ← match ← mappingEntries? engine first with
      | some entries => pure entries
      | none => countItems (← if first.isNone then pure [] else elements engine first)
    let entries ← args.named.foldlM (fun made e => Evaluation.setEntry made (.text e.1) e.2) entries
    let count (e : Object × Object) : Int := (e.2.int?).getD 0
    let sorted := entries.mergeSort fun a b => decide (count b ≤ count a)
    let shown ← shownText (← makeDict sorted)
    let text := if entries.isEmpty then s!"{name}()" else s!"{name}({shown})"
    some <$> holding cls (← makeDict entries) text
  | "defaultdict" => do
    let entries ← entriesOfCall engine name { args with values := args.values.drop 1 }
    let held ← makeDict entries
    let shown := s!"{name}({← shownText first}, {← shownText held})"
    if first.isNone then some <$> holding cls held shown
    else
      some <$> make (.instance cls
        [(heldName, held), (textNames.1, .text shown), ("default_factory", first)])
  | "deque" => do
    let held ← makeList (← if first.isNone then pure [] else elements engine first)
    let bound := args.values.getD 1 ((args.named.lookup "maxlen").getD .none)
    let limit ← if bound.isNone then pure "" else do pure s!", maxlen={← shownText bound}"
    some <$> holding cls held s!"deque({← shownText held}{limit})"
  | _ => pure none

/-! ### Types and functions -/

/-- The names under which a call that is put off keeps the function and its arguments. -/
def putOffNames : String × String × String := (".function", ".given", ".named")

/-- A call that is put off: a function with some of its arguments. -/
def putOff (cls : Object) (args : ArgumentList Object) : Evaluation Object := do
  match args.values with
  | [] => typeError "type 'partial' takes at least one argument"
  | f :: given => do
    let named ← makeDict (args.named.map fun e => (.text e.1, e.2))
    let words ← args.named.mapM fun e => do pure s!"{e.1}={← shownText e.2}"
    let values ← (f :: given).mapM shownText
    let shown := ", ".intercalate (values ++ words)
    make (.instance cls
      [(putOffNames.1, f), (putOffNames.2.1, .tuple given), (putOffNames.2.2, named),
       (textNames.1, .text s!"functools.partial({shown})"), ("func", f), ("args", .tuple given),
       ("keywords", named)])

/-- A type that a class of the module of types makes. -/
def makeType? (cls : Object) (name : String) (args : ArgumentList Object) :
    Evaluation (Option Object) := do
  let first := args.values.headD .none
  match name with
  | "SimpleNamespace" => do
    if !args.values.isEmpty then typeError "no positional arguments expected"
    let words ← args.named.mapM fun e => do pure s!"{e.1}={← shownText e.2}"
    let shown := "namespace(" ++ ", ".intercalate words ++ ")"
    some <$> make (.instance cls (args.named ++ [(textNames.1, .text shown)]))
  | "GenericAlias" => do
    if args.values.length ≠ 2 then
      typeError (Calling.positionalMessage name 2 2 args.values.length)
    match className? first with
    | some c => do
      let head : TypeHead := { package := c.package, name := c.longName, origin := c.name }
      let arguments ← frozen (args.values.getD 1 .none)
      pure (some (.fixed (.applied head arguments.arguments)))
    | none => pure none
  | _ => pure none

/-- A value that the module of the forms of types makes. -/
def makeTyping? (name : String) (args : ArgumentList Object) : Evaluation (Option Object) := do
  let first := args.values.headD ((args.named.lookup "name").getD .none)
  let thing (shown : String) : Object := .fixed (.other
    { kind := name, name := first.text?, text := shown })
  match name, first.text? with
  | "TypeVar", some s => do
    if args.values.length = 2 then typeError "A single constraint is not allowed"
    pure (some (.fixed (.typeVar s)))
  | "ParamSpec", some s => pure (some (thing ("~" ++ s)))
  | "NewType", some s => do
    let package ← match ← currentPackage? with
      | some o => plainText o
      | none => pure "typing"
    pure (some (thing (package ++ "." ++ s)))
  | "ForwardRef", some s => do
    let _ ← ofTypeResult (TypeExpr.checkText s)
    pure (some (.fixed (.deferred s)))
  | "ForwardRef", none => do
    typeError s!"Forward reference must be a string -- got {← shownText first}"
  | _, _ => pure none

/-- A value of a class of another package, if it is known how its values are made. -/
def constructOther? (engine : Engine) (c : ClassName) (args : ArgumentList Object) :
    Evaluation (Option Object) := do
  let cls : Object := .fixed (.cls c)
  match c.package with
  | "itertools" => do
    match ← selected? engine c.name args with
    | some items => some <$> make (.iterator (qualifiedName c.package c.name) (.values items))
    | none => pure none
  | "collections" => collect? engine cls c.name args
  | "functools" => if c.name = "partial" then some <$> putOff cls args else pure none
  | "types" => makeType? cls c.name args
  | "typing" => makeTyping? c.name args
  | _ => pure none

end HttpInterface.Predefined
