import HttpInterface.Object.Iteration
import HttpInterface.TypeExpr.Hash

/-!
# `HttpInterface.Object.Collection`: making sets and dictionaries

The items of a set and the keys of a dictionary have to be values that are told apart at
once. No two of them are equal: of equal items the first is kept, and of equal keys the
first with the last value. Sets made of numbers are in the order of a hash table, all
others in the order in which their items were added.
-/

set_option autoImplicit false

namespace HttpInterface.Evaluation

/-- Keeps the first of objects that are equal. -/
def distinct (items : List Object) : Evaluation (List Object) := do
  let shown ← items.mapM fun o => do pure (o, ← frozen o)
  let kept := shown.foldl (fun (kept : List (Object × TypeExpr)) e =>
    if kept.any fun k => k.2.same e.2 then kept else kept ++ [e]) []
  pure (kept.map Prod.fst)

/-- The items in the order of a hash table, if it is known; `isWhole` says that they are
put into it all at once. -/
def inTableOrder (items : List Object) (isWhole : Bool) : Evaluation (List Object) := do
  match TypeExpr.hashes? (← frozenAll items) with
  | none => pure items
  | some hashes =>
    let table := HashTable.ofHashes hashes
    let table := if isWhole then HashTable.ofTable table else table
    let row := items.toArray
    pure (table.order.filterMap fun i => row[i]?)

/-- The items that a set of some items has, in its order. -/
def setItems (items : List Object) : Evaluation (List Object) := do
  items.forM checkHashable
  inTableOrder (← distinct items) false

/-- A set of items. -/
def makeSet (items : List Object) (isFrozen : Bool) : Evaluation Object := do
  make (.set (← setItems items) isFrozen)

/-- A set of constants that are written in a row. -/
def makeWrittenSet (items : List Object) : Evaluation Object := do
  make (.set (← inTableOrder (← setItems items) true) false)

/-- The entry of a key. -/
def findEntry? (entries : List (Object × Object)) (key : Object) :
    Evaluation (Option (Object × Object)) := do
  checkHashable key
  let key ← frozen key
  entries.findM? fun e => do pure ((← frozen e.1).same key)

/-- The entries with one more, which takes the place of one with the same key. -/
def setEntry (entries : List (Object × Object)) (key value : Object) :
    Evaluation (List (Object × Object)) := do
  checkHashable key
  let shown ← frozen key
  let marked ← entries.mapM fun e => do pure (e, (← frozen e.1).same shown)
  if marked.any Prod.snd then
    pure (marked.map fun e => if e.2 then (e.1.1, value) else e.1)
  else pure (entries ++ [(key, value)])

/-- The entries of a dictionary that is made of entries. -/
def dictEntries (entries : List (Object × Object)) : Evaluation (List (Object × Object)) :=
  entries.foldlM (fun made e => setEntry made e.1 e.2) []

/-- A dictionary of entries. -/
def makeDict (entries : List (Object × Object)) : Evaluation Object := do
  make (.dict (← dictEntries entries))

/-- The entries of a dictionary. -/
def entries? (o : Object) : Evaluation (Option (List (Object × Object))) := do
  match ← cellOf? o with
  | some (.dict entries) => pure (some entries)
  | _ => pure none

/-- The items of a value that is a set, and whether it cannot be changed. -/
def set? (o : Object) : Evaluation (Option (List Object × Bool)) := do
  match ← cellOf? o with
  | some (.set items isFrozen) => pure (some (items, isFrozen))
  | _ => pure none

/-- The items of a value that is a list. -/
def list? (o : Object) : Evaluation (Option (List Object)) := do
  match ← cellOf? o with
  | some (.list items) => pure (some items.toList)
  | _ => pure none

/-- One of the objects is equal to another. -/
def holds (items : List Object) (o : Object) : Evaluation Bool := do
  let o ← frozen o
  items.anyM fun item => do pure ((← frozen item).same o)

end HttpInterface.Evaluation
