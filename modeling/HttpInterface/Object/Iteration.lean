import HttpInterface.Object.Special

/-!
# `HttpInterface.Object.Iteration`: the elements of values

A value that has elements gives an iterator, and this gives the elements one after the
other. Some iterators ask others for their elements, call functions on them, or run a
comprehension, which is what an `Engine` is needed for.
-/

set_option autoImplicit false

namespace HttpInterface

/-- The number of whole numbers in a range. -/
def rangeCount (start stop step : Int) : Nat :=
  let distance (first last width : Int) : Nat :=
    if first < last then ((last - first - 1) / width + 1).toNat else 0
  if 0 < step then distance start stop step else distance stop start (-step)

namespace Evaluation

/-- The most elements that are gone through. -/
def maxElements : Nat := 1000000

/-- The characters of a text as texts. -/
def charTexts (s : String) : List Object :=
  s.toList.map fun c => .text (String.singleton c)

/-- Bytes as whole numbers. -/
def byteNumbers (bs : Bytes) : List Object :=
  bs.map fun b => .int b.toNat

/-- The bytes of a value that keeps bytes, fixed or not. -/
def keptBytes? (o : Object) : Evaluation (Option Bytes) := do
  match o.bytes?, ← cellOf? o with
  | some bs, _ => pure (some bs)
  | none, some (.byteArray bs) => pure (some bs)
  | _, _ => pure none

/-- The bytes of a value that keeps bytes, or that shows those of another. -/
def bytesOf? (o : Object) : Evaluation (Option Bytes) := do
  match ← cellOf? o with
  | some (.memory source positions) =>
    let bs := (← keptBytes? source).getD []
    pure (some (positions.filterMap fun i => bs[i]?))
  | _ => keptBytes? o

/-- The object counts as true in a condition. -/
def isTrue (o : Object) : Evaluation Bool := do
  match o, ← cellOf? o with
  | .fixed t, _ => pure t.isTrue
  | .tuple items, _ => pure !items.isEmpty
  | _, some (.list items) => pure !items.isEmpty
  | _, some (.set items _) => pure !items.isEmpty
  | _, some (.dict entries) => pure !entries.isEmpty
  | _, some (.byteArray bs) => pure !bs.isEmpty
  | _, some (.memory _ positions) => pure !positions.isEmpty
  | _, some (.range start stop step) => pure (rangeCount start stop step != 0)
  | _, some (.view _ place) =>
    match ← cell? place with
    | some (.dict entries) => pure !entries.isEmpty
    | _ => pure false
  | _, _ => pure true

/-- The object counts as true in a condition, as its class decides. -/
def truth (engine : Engine) (o : Object) : Evaluation Bool := do
  match ← special? engine o "__bool__" [] with
  | some (.fixed (.constant (.bool b))) => pure b
  | some answer => typeError s!"__bool__ should return bool, returned {← kindName answer}"
  | none =>
    match ← special? engine o "__len__" [] with
    | some length => isTrue length
    | none => isTrue (← plain o)

/-- What a view of a dictionary shows. -/
def viewItems (kind : ViewKind) (place : Nat) : Evaluation (List Object) := do
  match ← cell? place with
  | some (.dict entries) => pure (kind.shown (fun a b => .tuple [a, b]) entries)
  | _ => pure []

/-- The name of the class of an iterator over a view. -/
def viewIteratorName : ViewKind → String
  | .keys => "dict_keyiterator"
  | .values => "dict_valueiterator"
  | .items => "dict_itemiterator"

/-- The elements that are in a value at once, and the name of the class of an iterator
over them. -/
def inside? (o : Object) : Evaluation (Option (String × List Object)) := do
  let o ← if ← hasSpecial o "__iter__" then pure o else plain o
  match o, ← cellOf? o with
  | .tuple items, _ => pure (some ("tuple_iterator", items))
  | .fixed (.text s), _ =>
    let isAscii := s.toList.all fun c => c.toNat < 128
    pure (some (if isAscii then "str_ascii_iterator" else "str_iterator", charTexts s))
  | .fixed (.constant (.bytes bs)), _ => pure (some ("bytes_iterator", byteNumbers bs))
  | .fixed (.applied head args), _ =>
    let kind := if head.isContainer then "generic_alias_iterator" else "generator"
    pure (some (kind, [.fixed (.unpacked (.applied head args))]))
  | .fixed (.literal values), _ =>
    pure (some ("generator", [.fixed (.unpacked (.literal values))]))
  | .fixed (.unpacked t), _ =>
    if (TypeExpr.unpacked t).kindName = "types.GenericAlias" then
      pure (some ("generic_alias_iterator", [.fixed (.unpacked t)]))
    else pure (some ("generator", [.fixed (.unpacked (.unpacked t))]))
  | _, some (.list items) => pure (some ("list_iterator", items.toList))
  | _, some (.byteArray bs) => pure (some ("bytearray_iterator", byteNumbers bs))
  | o, some (.memory _ _) => do
    pure (some ("memory_iterator", byteNumbers ((← bytesOf? o).getD [])))
  | _, some (.set items _) => pure (some ("set_iterator", items))
  | _, some (.dict entries) => pure (some ("dict_keyiterator", entries.map Prod.fst))
  | _, some (.view kind place) => do
    pure (some (viewIteratorName kind, ← viewItems kind place))
  | _, _ => pure none

/-- An iterator over the elements of a value that has some. -/
def iterator? (o : Object) : Evaluation (Option Object) := do
  if ← hasSpecial o "__iter__" then return some (← make (.iterator "iterator" (.asked o)))
  let o ← plain o
  if ← hasSpecial o "__getitem__" then
    return some (← make (.iterator "iterator" (.indexed o 0)))
  match o, ← cellOf? o with
  | o, some (.iterator _ _) => pure (some o)
  | .stored place, some (.list _) =>
    some <$> make (.iterator "list_iterator" (.list place 0))
  | _, some (.range start stop step) =>
    some <$> make (.iterator "range_iterator" (.range start step (rangeCount start stop step)))
  | o, _ =>
    match ← inside? o with
    | some (kind, items) => some <$> make (.iterator kind (.values items))
    | none => pure none

/-- An iterator over the elements of a value. -/
def iterator (o : Object) : Evaluation Object := do
  match ← iterator? o with
  | some it => pure it
  | none => throw (.notIterable (← kindName o))

/-- Takes elements as long as there are some, and checks each before the next one. `fuel`
bounds how many these are, and `taken` are those taken before, last one first. -/
def drainWith (engine : Engine) (check : Object → Evaluation Unit) (fuel : Nat) (it : Object)
    (taken : List Object) : Evaluation (List Object) := do
  match fuel with
  | 0 => raise "MemoryError" ""
  | fuel + 1 =>
    match ← engine.next? it with
    | none => pure taken.reverse
    | some o =>
      check o
      drainWith engine check fuel it (o :: taken)

/-- Takes elements as long as there are some. -/
def drain (engine : Engine) (fuel : Nat) (it : Object) (taken : List Object) :
    Evaluation (List Object) :=
  drainWith engine (fun _ => pure ()) fuel it taken

/-- Whether there is an element that passes a test. No more are taken than decide. -/
def anyElement (engine : Engine) (test : Object → Evaluation Bool) (fuel : Nat) (it : Object) :
    Evaluation Bool := do
  match fuel with
  | 0 => raise "MemoryError" ""
  | fuel + 1 =>
    match ← engine.next? it with
    | none => pure false
    | some o => if ← test o then pure true else anyElement engine test fuel it

/-- All elements of a value that has some. -/
def elements? (engine : Engine) (o : Object) : Evaluation (Option (List Object)) := do
  match ← inside? o with
  | some (_, items) => pure (some items)
  | none =>
    match ← iterator? o with
    | some it => some <$> drain engine maxElements it []
    | none => pure none

/-- All elements of a value. -/
def elements (engine : Engine) (o : Object) : Evaluation (List Object) := do
  match ← elements? engine o with
  | some items => pure items
  | none => throw (.notIterable (← kindName o))

/-- A form that is made to have no elements. -/
def refusesElements : Object → Bool
  | .fixed (.bare _) | .fixed (.union _) | .fixed (.annotated _ _) => true
  | _ => false

/-- All elements of a value that stands for several items. -/
def spreadElements (engine : Engine) (o : Object) : Evaluation (List Object) := do
  match ← elements? engine o with
  | some items => pure items
  | none =>
    let kind ← kindName o
    throw (if refusesElements o then .notIterable kind else .notSpreadable kind)

/-! ### Steps -/

/-- One element of each of several iterators, as long as all have some. -/
def nextOfEach (engine : Engine) : List Object → Evaluation (Option (List Object))
  | [] => pure (some [])
  | source :: rest => do
    match ← engine.next? source with
    | none => pure none
    | some o => pure ((← nextOfEach engine rest).map (o :: ·))

/-- One element of each of several iterators that have to be equally long. -/
def nextOfEqual (engine : Engine) (sources : List Object) : Evaluation (Option (List Object)) := do
  let taken ← sources.mapM engine.next?
  let single (count : Nat) : String := if count = 1 then " " else "s 1-"
  match taken with
  | none :: rest =>
    match rest.findIdx? Option.isSome with
    | some i => valueError s!"zip() argument {i + 2} is longer than argument{single (i + 1)}{i + 1}"
    | none => pure none
  | taken =>
    match taken.findIdx? Option.isNone with
    | some i => valueError s!"zip() argument {i + 1} is shorter than argument{single i}{i}"
    | none => pure (some (taken.filterMap id))

/-- The next element that passes a test; `fuel` bounds how many are looked at. -/
def nextPassing (engine : Engine) (fuel : Nat) (test source : Object) :
    Evaluation (Option Object) := do
  match fuel with
  | 0 => raise "MemoryError" ""
  | fuel + 1 =>
    match ← engine.next? source with
    | none => pure none
    | some o =>
      let answer ← if test.isNone then pure o else engine.call test { values := [o] }
      if ← truth engine answer then pure (some o) else nextPassing engine fuel test source

/-- One step of the iterator at a place: its next element. `advance` runs a comprehension
up to its next element. -/
def step (engine : Engine) (advance : Nat → Generator → Evaluation (Option Object))
    (place : Nat) (kind : String) (source : Source) : Evaluation (Option Object) := do
  let goOn (source : Source) (o : Object) : Evaluation (Option Object) := do
    write place (.iterator kind source)
    pure (some o)
  let finish : Evaluation (Option Object) := do
    write place (.iterator kind (.values []))
    pure none
  match source with
  | .values [] => pure none
  | .values (o :: rest) => goOn (.values rest) o
  | .list list position =>
    match ← cell? list with
    | some (.list items) =>
      match items[position]? with
      | some o => goOn (.list list (position + 1)) o
      | none => finish
    | _ => finish
  | .range _ _ 0 => pure none
  | .range next width (count + 1) => goOn (.range (next + width) width count) (.int next)
  | .mapped f sources =>
    match ← nextOfEach engine sources with
    | some args => some <$> engine.call f { values := args }
    | none => pure none
  | .filtered test source => nextPassing engine maxElements test source
  | .zipped [] _ => pure none
  | .zipped sources strict => do
    let taken ← if strict then nextOfEqual engine sources else nextOfEach engine sources
    pure (taken.map .tuple)
  | .numbered n source =>
    match ← engine.next? source with
    | some o => goOn (.numbered (n + 1) source) (.tuple [.int n, o])
    | none => pure none
  | .called f sentinel => do
    let o ← engine.call f {}
    if ← same o sentinel then finish else pure (some o)
  | .generator state => advance place state
  | .paused _ => pure none
  | .asked o => do
    let it := (← special? engine o "__iter__" []).getD .none
    let isKept := match ← cellOf? it with
      | some (.iterator _ _) => true
      | _ => false
    if !isKept && !(← hasSpecial it "__next__") then
      typeError s!"iter() returned non-iterator of type '{← kindName it}'"
    write place (.iterator kind (.delegated it))
    engine.next? it
  | .delegated it => engine.next? it
  | .indexed o position =>
    match ← attempt? "IndexError" (special? engine o "__getitem__" [.int position]) with
    | some (some item) => goOn (.indexed o (position + 1)) item
    | _ => finish

/-! ### Taking values apart -/

/-- The values that the targets of a row get. A target that is spread gets a list of all
that the others leave. -/
def partsFor (engine : Engine) (count : Nat) (spreadAt : Option Nat) (o : Object) :
    Evaluation (List Object) := do
  let items ← match ← elements? engine o with
    | some items => pure items
    | none =>
      if refusesElements o then throw (.notIterable (← kindName o))
      else typeError s!"cannot unpack non-iterable {← kindName o} object"
  match spreadAt with
  | none =>
    if items.length < count then
      valueError s!"not enough values to unpack (expected {count}, got {items.length})"
    if count < items.length then valueError s!"too many values to unpack (expected {count})"
    pure items
  | some i =>
    if items.length + 1 < count then
      valueError (s!"not enough values to unpack (expected at least {count - 1}, " ++
        s!"got {items.length})")
    let width := items.length + 1 - count
    let rest ← makeList ((items.drop i).take width)
    pure (items.take i ++ rest :: items.drop (i + width))

end Evaluation

end HttpInterface
