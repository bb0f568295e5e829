import HttpInterface.Object.Collection
import HttpInterface.Sequence
import HttpInterface.TypeExpr.Apply

/-!
# `HttpInterface.Object.Item`: what stands between brackets behind a value

A sequence has items by their positions, which may be counted from its end, and parts by
slices. A dictionary has values by their keys. A type takes arguments.
-/

set_option autoImplicit false

namespace HttpInterface

/-- The largest number that is a position. -/
def maxPosition : Nat := 9223372036854775807

/-- What is said of a number that is no position. -/
def noPositionMessage : String := "cannot fit 'int' into an index-sized integer"

namespace Evaluation

/-- Checks that a number is small enough for a position. -/
def checkPosition (i : Int) : Evaluation Unit :=
  if i < -(maxPosition + 1 : Int) || (maxPosition : Int) < i then
    raise "IndexError" noPositionMessage
  else pure ()

/-- A bound of a slice: a position, or nothing. -/
def sliceBound (o : Object) : Evaluation (Option Int) :=
  match o.isNone, o.int? with
  | true, _ => pure none
  | false, some i => pure (some i)
  | false, none => throw .badBound

/-- The bounds and the step of a slice. -/
def sliceBounds (start stop step : Object) : Evaluation (Option Int × Option Int × Int) := do
  let width := (← sliceBound step).getD 1
  if width = 0 then throw .zeroStep
  pure (← sliceBound start, ← sliceBound stop, width)

/-- The part of a row that a slice takes. -/
def sliceOf {α : Type} (items : List α) (start stop step : Object) : Evaluation (List α) := do
  let (start, stop, step) ← sliceBounds start stop step
  pure (Sequence.slice items start stop step)

/-- A bound of a slice as a position of a row of some length. -/
def position (length : Nat) (isBackward : Bool) (bound : Int) : Int :=
  let bound := if bound < 0 then bound + length else bound
  let last : Int := if isBackward then length - 1 else length
  let first : Int := if isBackward then -1 else 0
  if bound < first then first else if last < bound then last else bound

/-- The part of a range that a slice takes. -/
def sliceOfRange (first last width : Int) (start stop step : Object) : Evaluation Object := do
  let length := rangeCount first last width
  let (start, stop, step) ← sliceBounds start stop step
  let isBackward := step < 0
  let ends : Int × Int := if isBackward then (length - 1, -1) else (0, length)
  let lower := (start.map (position length isBackward)).getD ends.1
  let upper := (stop.map (position length isBackward)).getD ends.2
  make (.range (first + lower * width) (first + upper * width) (width * step))

/-- The item of a row at a position. -/
def itemAt {α : Type} (kind : String) (items : List α) (i : Int) : Evaluation α := do
  checkPosition i
  match (Sequence.place? items.length i).bind fun place => items[place]? with
  | some item => pure item
  | none => throw (.outOfRange kind)

/-- The item of a range at a position. -/
def itemOfRange (first last width i : Int) : Evaluation Object :=
  match Sequence.place? (rangeCount first last width) i with
  | some place => pure (.int (first + place * width))
  | none => throw (.outOfRange "range object")

/-- The value of a key. -/
def valueOfKey (entries : List (Object × Object)) (key : Object) : Evaluation Object := do
  match ← findEntry? entries key with
  | some e => pure e.2
  | none => throw (.missingKey (← shownText key))

/-- What stands between brackets behind a row. -/
inductive RowIndex where
  | at (position : Int)
  | part (start stop step : Object)

/-- What stands between brackets behind a row of some kind. -/
def rowIndex (kind : String) (index : Object) : Evaluation RowIndex := do
  match index.int?, ← cellOf? index with
  | some i, _ => pure (.at i)
  | none, some (.slice start stop step) => pure (.part start stop step)
  | none, _ => throw (.noPosition kind (← kindName index))

/-- An item or a part of a row. -/
def rowItem {α : Type} (kind : String) (items : List α) (one : α → Evaluation Object)
    (several : List α → Evaluation Object) (index : Object) : Evaluation Object := do
  match ← rowIndex kind index with
  | .at i => one (← itemAt kind items i)
  | .part start stop step => several (← sliceOf items start stop step)

/-- A value with something between brackets behind it. -/
def subscript (head index : Object) : Evaluation Object := do
  let byte (b : UInt8) : Evaluation Object := pure (.int b.toNat)
  match head, ← cellOf? head with
  | .tuple items, _ => rowItem "tuple" items pure (fun part => pure (.tuple part)) index
  | .fixed (.text s), _ =>
    rowItem "str" s.toList (fun c => pure (.text (String.singleton c)))
      (fun part => pure (.text (String.ofList part))) index
  | .fixed (.constant (.bytes bs)), _ =>
    rowItem "bytes" bs byte (fun part => pure (.bytes part)) index
  | .fixed t, _ => do Object.ofResult (t.apply (← frozen index))
  | _, some (.list items) => rowItem "list" items.toList pure makeList index
  | _, some (.byteArray bs) =>
    rowItem "bytearray" bs byte (fun part => make (.byteArray part)) index
  | o, some (.memory source positions) => do
    let bs := (← bytesOf? o).getD []
    match index, ← cellOf? index with
    | _, some (.slice start stop step) => do
      make (.memory source (← sliceOf positions start stop step))
    | i, _ =>
      match i.int? with
      | none => typeError "memoryview: invalid slice key"
      | some i =>
        match Sequence.place? bs.length i with
        | some i => byte (bs.getD i 0)
        | none => raise "IndexError" "index out of bounds on dimension 1"
  | _, some (.dict entries) => valueOfKey entries index
  | _, some (.range start stop step) =>
    match ← rowIndex "range" index with
    | .at i => itemOfRange start stop step i
    | .part lower upper width => sliceOfRange start stop step lower upper width
  | c, some (.madeClass name _ _) => do
    let isGeneric := (← lineage maxLineage c).any fun a =>
      (className? a).any fun d => d.typeVariables.isSome
    if isGeneric then throw (.noMoreArguments (← shownText c))
    throw (.notSubscriptable name)
  | _, _ => throw (.kindNotSubscriptable (← kindName head))

/-- Puts a value where a key or a position says. -/
def setItem (owner index value : Object) : Evaluation Unit := do
  match owner, ← cellOf? owner with
  | .stored place, some (.dict entries) =>
    write place (.dict (← setEntry entries index value))
  | .stored place, some (.list items) =>
    match index.int? with
    | none => throw (.noPosition "list" (← kindName index))
    | some i =>
      checkPosition i
      match Sequence.place? items.size i with
      | some i => write place (.list (items.setIfInBounds i value))
      | none => raise "IndexError" "list assignment index out of range"
  | .stored place, some (.byteArray bs) =>
    match index.int? with
    | none => throw (.noPosition "bytearray" (← kindName index))
    | some i =>
      checkPosition i
      match Sequence.place? bs.length i with
      | some i => do write place (.byteArray (bs.set i (← byteOf value)))
      | none => raise "IndexError" "bytearray index out of range"
  | _, some (.memory source positions) =>
    match source, ← cellOf? source, index.int? with
    | .stored place, some (.byteArray bs), some i =>
      match (Sequence.place? positions.length i).bind fun i => positions[i]? with
      | some i => do write place (.byteArray (bs.set i (← byteOf value)))
      | none => raise "IndexError" "index out of bounds on dimension 1"
    | .stored _, some (.byteArray _), none => typeError "memoryview: invalid slice key"
    | _, _, _ => typeError "cannot modify read-only memory"
  | _, _ => typeError s!"'{← kindName owner}' object does not support item assignment"
where
  /-- The byte that a value is. -/
  byteOf (o : Object) : Evaluation UInt8 := do
    match o.int? with
    | some i =>
      if i < 0 || 255 < i then valueError "byte must be in range(0, 256)"
      pure (UInt8.ofNat i.toNat)
    | none => typeError s!"'{← kindName o}' object cannot be interpreted as an integer"

/-- Takes what a key or a position says out of a value. -/
def removeItem (owner index : Object) : Evaluation Unit := do
  match owner, ← cellOf? owner with
  | .stored place, some (.dict entries) =>
    match ← findEntry? entries index with
    | none => throw (.missingKey (← shownText index))
    | some _ =>
      let key ← frozen index
      write place (.dict (← entries.filterM fun e => do pure !((← frozen e.1).same key)))
  | .stored place, some (.list items) =>
    match ← rowIndex "list" index with
    | .part start stop step =>
      let (start, stop, step) ← sliceBounds start stop step
      let gone := Sequence.slice (List.range items.size) start stop step
      let kept := items.toList.zipIdx.filter fun e => !gone.contains e.2
      write place (.list (kept.map Prod.fst).toArray)
    | .at i =>
      checkPosition i
      match Sequence.place? items.size i with
      | some i => write place (.list (items.toList.eraseIdx i).toArray)
      | none => raise "IndexError" "list assignment index out of range"
  | _, _ => typeError s!"'{← kindName owner}' object doesn't support item deletion"

end Evaluation

end HttpInterface
