import HttpInterface.Object.Arithmetic
import HttpInterface.Object.Calling
import HttpInterface.Object.Comparison
import HttpInterface.Object.Demand

/-!
# `HttpInterface.Predefined.CollectionMember`: what the members of collections do

Lists, dictionaries and sets can be changed in their places. Tuples, ranges and sets that
cannot be changed are searched and put together only.
-/

set_option autoImplicit false

namespace HttpInterface.Predefined

open Evaluation

/-! ### Order -/

/-- Puts an element into a row that is in order, behind all that are not greater. The row
has its last element first. -/
def insertInOrder (isReversed : Bool) (key item : Object) :
    List (Object × Object) → Evaluation (List (Object × Object))
  | [] => pure [(key, item)]
  | (k, o) :: rest => do
    let comesBefore ← if isReversed then isLess k key else isLess key k
    if comesBefore then pure ((k, o) :: (← insertInOrder isReversed key item rest))
    else pure ((key, item) :: (k, o) :: rest)

/-- Items in the order of their keys. Equal items stay in the order that they have. -/
def inOrder (isReversed : Bool) (keys items : List Object) : Evaluation (List Object) := do
  let sorted ← (keys.zip items).foldlM (fun row e =>
    insertInOrder isReversed e.1 e.2 row) []
  pure (sorted.reverse.map Prod.snd)

/-- Items in order; `key` gives what is compared, unless it is nothing. -/
def sortedBy (engine : Engine) (key reverse : Object) (items : List Object) :
    Evaluation (List Object) := do
  let keys ← if key.isNone then pure items
    else items.mapM fun o => engine.call key { values := [o] }
  inOrder (← isTrue reverse) keys items

/-! ### Rows -/

/-- The first place of an item between two bounds. -/
def placeOf? (items : List Object) (o : Object) (start stop : Option Int) :
    Evaluation (Option Nat) := do
  match Sequence.window? items.length start stop with
  | none => pure none
  | some (first, length) =>
    let found ← ((items.drop first).take length).zipIdx.findM? fun e => equal e.1 o
    pure (found.map fun e => first + e.2)

/-- How many items are equal to an object. -/
def countOf (items : List Object) (o : Object) : Evaluation Nat := do
  pure (← items.filterM fun item => equal item o).length

/-- How a member of tuples and lists takes its arguments. -/
def listCalling : String → Calling
  | "append" | "count" | "extend" | "remove" => .one
  | "index" => .positional 1 3
  | "insert" => .positional 2 2
  | "pop" => .positional 0 1
  | "sort" => .named 0 0 ["key", "reverse"]
  | _ => .nothing

/-- What a member makes of a row that it does not change. -/
def callRow? (items : List Object) (kind name : String) (args : List (Option Object)) :
    Evaluation (Option Object) := do
  match name with
  | "count" => do pure (some (.int (← countOf items (argument args 0))))
  | "index" =>
    match ← placeOf? items (argument args 0) (← positionAt args 1) (← positionAt args 2) with
    | some i => pure (some (.int i))
    | none =>
      if kind = "list" then valueError s!"{← shownText (argument args 0)} is not in list"
      else valueError "tuple.index(x): x not in tuple"
  | _ => pure none

/-- What a member does with a list at a place. -/
def callList (engine : Engine) (place : Nat) (items : List Object) (name : String)
    (args : List (Option Object)) : Evaluation Object := do
  if let some o ← callRow? items "list" name args then return o
  let keep (items : List Object) (result : Object) : Evaluation Object := do
    write place (.list items.toArray)
    pure result
  let first := argument args 0
  match name with
  | "append" => keep (items ++ [first]) .none
  | "extend" => do keep (items ++ (← elements engine first)) .none
  | "clear" => keep [] .none
  | "copy" => makeList items
  | "reverse" => keep items.reverse .none
  | "insert" =>
    let spot := min items.length (Sequence.clamp items.length (← demandCount first))
    keep (items.take spot ++ argument args 1 :: items.drop spot) .none
  | "pop" =>
    let i ← countOr (-1) (argument? args 0)
    if items.isEmpty then raise "IndexError" "pop from empty list"
    match Sequence.place? items.length i with
    | some i => keep (items.eraseIdx i) ((items[i]?).getD .none)
    | none => raise "IndexError" "pop index out of range"
  | "remove" =>
    match ← placeOf? items first none none with
    | some i => keep (items.eraseIdx i) .none
    | none => valueError "list.remove(x): x not in list"
  | "sort" => do keep (← sortedBy engine first (argument args 1) items) .none
  | _ => throw (.noMember "list" name)

/-! ### Dictionaries -/

/-- How a member of dictionaries takes its arguments. -/
def dictCalling : String → Calling
  | "get" | "pop" | "setdefault" | "fromkeys" => .positional 1 2
  | "update" => .any
  | _ => .nothing

/-- The entries of a mapping: a dictionary, or a value whose class says its keys and what
belongs to them. -/
def mappingEntries? (engine : Engine) (o : Object) :
    Evaluation (Option (List (Object × Object))) := do
  match ← special? engine o "keys" [], ← hasSpecial o "__getitem__" with
  | some keys, true =>
    some <$> (← elements engine keys).mapM fun key => do
      pure (key, (← special? engine o "__getitem__" [key]).getD .none)
  | _, _ => do entries? (← plain o)

/-- The entries that an object makes for a dictionary: those of a mapping, or pairs. -/
def entriesFrom (engine : Engine) (o : Object) : Evaluation (List (Object × Object)) := do
  match ← mappingEntries? engine o with
  | some entries => pure entries
  | none =>
    (← elements engine o).zipIdx.mapM fun (pair, i) => do
      match ← elements? engine pair with
      | none =>
        typeError s!"cannot convert dictionary update sequence element #{i} to a sequence"
      | some [key, value] => pure (key, value)
      | some items =>
        valueError (s!"dictionary update sequence element #{i} has length {items.length}; " ++
          "2 is required")

/-- The entries of a call that makes or changes a dictionary. -/
def entriesOfCall (engine : Engine) (name : String) (args : ArgumentList Object) :
    Evaluation (List (Object × Object)) := do
  if 1 < args.values.length then
    typeError s!"{name} expected at most 1 argument, got {args.values.length}"
  let entries ← match args.values with
    | o :: _ => entriesFrom engine o
    | [] => pure []
  pure (entries ++ args.named.map fun e => (.text e.1, e.2))

/-- What a member does with a dictionary at a place. -/
def callDict (place : Nat) (entries : List (Object × Object)) (name : String)
    (args : List (Option Object)) : Evaluation Object := do
  let keep (entries : List (Object × Object)) (result : Object) : Evaluation Object := do
    write place (.dict entries)
    pure result
  let key := argument args 0
  let without : Evaluation (List (Object × Object)) :=
    entries.filterM fun e => do pure !(← equal e.1 key)
  match name with
  | "get" => do pure (((← findEntry? entries key).map Prod.snd).getD (argument args 1))
  | "setdefault" =>
    match ← findEntry? entries key with
    | some e => pure e.2
    | none => keep (entries ++ [(key, argument args 1)]) (argument args 1)
  | "pop" =>
    let found ← if entries.isEmpty then pure none else findEntry? entries key
    match found, argument? args 1 with
    | some e, _ => do keep (← without) e.2
    | none, some usual => pure usual
    | none, none => throw (.missingKey (← shownText key))
  | "popitem" =>
    match entries.getLast? with
    | some e => keep entries.dropLast (.tuple [e.1, e.2])
    | none => raise "KeyError" "'popitem(): dictionary is empty'"
  | "keys" => make (.view .keys place)
  | "values" => make (.view .values place)
  | "items" => make (.view .items place)
  | "clear" => keep [] .none
  | "copy" => make (.dict entries)
  | _ => throw (.noMember "dict" name)

/-- A dictionary in which some keys have one value. -/
def dictFromKeys (engine : Engine) (args : List (Option Object)) : Evaluation Object := do
  let keys ← elements engine (argument args 0)
  makeDict (keys.map fun key => (key, argument args 1))

/-! ### Sets -/

/-- How a member of sets takes its arguments. -/
def setCalling : String → Calling
  | "add" | "discard" | "remove" | "isdisjoint" | "issubset" | "issuperset"
  | "symmetric_difference" | "symmetric_difference_update" => .one
  | "difference" | "difference_update" | "intersection" | "intersection_update" | "union"
  | "update" => .any
  | _ => .nothing

/-- The operators that members of sets stand for. -/
def setMemberOperators : List (String × BinaryOperator) :=
  [("difference", .minus), ("intersection", .ampersand), ("symmetric_difference", .caret),
   ("union", .bar)]

/-- All of the items are among others. -/
def areAmong (items others : List Object) : Evaluation Bool := items.allM (holds others)

/-- The items of a set after an operator with each of some values. -/
def combineEach (engine : Engine) (operator : BinaryOperator) (items : List Object)
    (args : List (Option Object)) : Evaluation (List Object) :=
  args.foldlM (fun items o => do
    let others ← setItems (← elements engine (o.getD .none))
    combineItems operator items others) items

/-- What a member makes of a set that it does not change. -/
def callSet? (engine : Engine) (items : List Object) (isFrozen : Bool) (name : String)
    (args : List (Option Object)) : Evaluation (Option Object) := do
  if let some operator := setMemberOperators.lookup name then
    return some (← makeSet (← combineEach engine operator items args) isFrozen)
  match name with
  | "copy" => some <$> make (.set items isFrozen)
  | "isdisjoint" =>
    let others ← elements engine (argument args 0)
    pure (some (.bool !(← others.anyM (holds items))))
  | "issubset" =>
    pure (some (.bool (← areAmong items (← setItems (← elements engine (argument args 0))))))
  | "issuperset" =>
    pure (some (.bool (← areAmong (← setItems (← elements engine (argument args 0))) items)))
  | _ => pure none

/-- What a member does with a set at a place. -/
def changeSet (engine : Engine) (place : Nat) (items : List Object) (name : String)
    (args : List (Option Object)) : Evaluation Object := do
  let keep (items : List Object) (result : Object) : Evaluation Object := do
    write place (.set (← setItems items) false)
    pure result
  let first := argument args 0
  let checkItem : Evaluation Unit := do
    if (← set? first).isNone then checkHashable first
  let without : Evaluation (List Object) := items.filterM fun o => do pure !(← equal o first)
  let update (operator : BinaryOperator) : Evaluation Object := do
    keep (← combineEach engine operator items args) .none
  match name with
  | "add" => keep (items ++ [first]) .none
  | "clear" => keep [] .none
  | "discard" => do
    checkItem
    keep (← without) .none
  | "remove" => do
    checkItem
    if !(← holds items first) then throw (.missingKey (← shownText first))
    keep (← without) .none
  | "pop" =>
    match items with
    | [] => raise "KeyError" "'pop from an empty set'"
    | o :: rest => keep rest o
  | "update" => update .bar
  | "difference_update" => update .minus
  | "intersection_update" => update .ampersand
  | "symmetric_difference_update" => update .caret
  | _ => throw (.noMember "set" name)

/-! ### Ranges and slices -/

/-- What a member makes of a range. -/
def callRange (engine : Engine) (range : Object) (start step : Int) (name : String)
    (args : List (Option Object)) : Evaluation Object := do
  let o := argument args 0
  let isIn ← isElement engine o range
  match name with
  | "count" => pure (.int (if isIn then 1 else 0))
  | "index" =>
    match isIn, o.number? with
    | true, some (.whole i) => pure (.int (Int.fdiv (i - start) step))
    | true, some n =>
      pure (.int (Int.fdiv (Number.truncated ((n.toFloat?).getD 0.0) - start) step))
    | _, some (.whole _) => valueError s!"{← shownText o} is not in range"
    | _, _ => valueError "sequence.index(x): x not in sequence"
  | _ => throw (.noMember "range" name)

/-- The positions that a slice stands for in a row of some length. -/
def sliceIndices (start stop step length : Object) : Evaluation Object := do
  let n ← demandInt length
  if n < 0 then valueError "length should not be negative"
  let (first, last, width) ← sliceBounds start stop step
  let isBackward := width < 0
  let usual : Int × Int := if isBackward then (n - 1, -1) else (0, n)
  let place (bound : Option Int) (usual : Int) : Object :=
    .int ((bound.map (position n.toNat isBackward)).getD usual)
  pure (.tuple [place first usual.1, place last usual.2, .int width])

end HttpInterface.Predefined
