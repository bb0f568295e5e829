import HttpInterface.Number
import HttpInterface.TypeExpr.Compare

/-!
# `HttpInterface.TypeExpr.Hash`: the hashes of values and the order of sets

The hash of a tuple mixes those of its items. Values that are told apart
by other means have no hash here.

The items of a set stand in the slots of a table in which every item is put near the
slot that its hash points to. The table grows before it is full, and the items are then
put into it again. Sets are shown and gone through slot by slot.
-/

set_option autoImplicit false

namespace HttpInterface

/-! ### Hashes -/

namespace TypeExpr

/-- A hash as sixty-four bits. -/
def hashBits (h : Int) : UInt64 := UInt64.ofInt h

/-- Sixty-four bits as a hash. -/
def hashOfBits (bits : UInt64) : Int :=
  Int.bmod (bits.toNat : Int) (Nat.pow 2 64)

/-- The hash of a tuple of values with these hashes. -/
def tupleHash (hashes : List Int) : Int :=
  let first : UInt64 := 11400714785074694791
  let second : UInt64 := 14029467366897019727
  let fifth : UInt64 := 2870177450012600261
  let mixed := hashes.foldl (fun (acc : UInt64) h =>
    let acc := acc + hashBits h * second
    ((acc <<< 31) ||| (acc >>> 33)) * first) fifth
  let salt : UInt64 := 3527539
  let acc := mixed + (UInt64.ofNat hashes.length ^^^ (fifth ^^^ salt))
  let h := hashOfBits acc
  if h = -1 then 1546275796 else h

/-- The hash of a set of values with these hashes. -/
def setHash (hashes : List Int) : Int :=
  let shuffled (h : Int) : UInt64 :=
    let bits : UInt64 := hashBits h
    let salt : UInt64 := 89869747
    ((bits ^^^ salt) ^^^ (bits <<< 16)) * 3644798167
  let mixed : UInt64 := hashes.foldl (fun acc h => acc ^^^ shuffled h) 0
  let size : UInt64 := (UInt64.ofNat hashes.length + 1) * 1927868237
  let mixed := mixed ^^^ size
  let mixed := mixed ^^^ ((mixed >>> 11) ^^^ (mixed >>> 25))
  let h := hashOfBits (mixed * 69069 + 907133923)
  if h = -1 then 590923713 else h

mutual

/-- The hash of a value, if it is made of numbers. -/
def hash? : TypeExpr → Option Int
  | .constant (.bytes []) => some 0
  | .constant c => c.number?.bind Number.hash?
  | .text s => if s.isEmpty then some 0 else Option.none
  | .tuple items => (hashes? items).map tupleHash
  | .frozenSet items => (hashes? items).map setHash
  | _ => Option.none

/-- The hashes of values, if all are made of numbers. -/
def hashes? : List TypeExpr → Option (List Int)
  | [] => some []
  | t :: rest => do
    let h ← hash? t
    pure (h :: (← hashes? rest))

end

end TypeExpr

/-! ### Tables -/

/-- The table of a set: in its slots stand hashes, each with the number of its item. -/
structure HashTable where
  slots : Array (Option (UInt64 × Nat))
  used : Nat := 0

namespace HashTable

/-- A table with so many slots. -/
def empty (size : Nat) : HashTable := { slots := Array.replicate size none }

/-- The number of slots of the smallest table. -/
def minSize : Nat := 8

/-- How many slots behind the first one are tried in a row. -/
def rowLength : Nat := 9

/-- The first empty slot among some. -/
def freeAmong? (table : HashTable) (places : List Nat) : Option Nat :=
  places.find? fun i => (table.slots[i]?).any Option.isNone

/-- The slot for a hash from slot `i` on. `fuel` bounds how many rows are tried. -/
def slotFrom (table : HashTable) (fuel : Nat) (i : Nat) (perturb : UInt64) : Nat :=
  let size := table.slots.size
  let row := if i + rowLength < size then rowLength + 1 else 1
  match fuel, table.freeAmong? ((List.range row).map (i + ·)) with
  | _, some place => place
  | 0, none => ((List.range size).find? fun i => (table.slots[i]?).any Option.isNone).getD 0
  | fuel + 1, none =>
    let perturb := perturb >>> 5
    table.slotFrom fuel ((i * 5 + 1 + perturb.toNat) % size) perturb

/-- The table with one more item, which is new. -/
def put (table : HashTable) (hash : UInt64) (item : Nat) : HashTable :=
  let size := table.slots.size
  let place := table.slotFrom (2 * size + 64) (hash.toNat % size) hash
  { slots := table.slots.setIfInBounds place (some (hash, item)), used := table.used + 1 }

/-- The hashes and numbers of the items, slot by slot. -/
def items (table : HashTable) : List (UInt64 × Nat) :=
  table.slots.toList.filterMap id

/-- The least size that exceeds a number. -/
def sizeFor (count : Nat) : Nat :=
  if count < minSize then minSize else Nat.pow 2 (Nat.log2 count + 1)

/-- The table with its items put into one for a number of items. -/
def resized (table : HashTable) (count : Nat) : HashTable :=
  table.items.foldl (fun t e => t.put e.1 e.2) (empty (sizeFor count))

/-- The table is filled so far that it has to grow. -/
def isCrowded (table : HashTable) (used : Nat) : Bool :=
  3 * (table.slots.size - 1) ≤ 5 * used

/-- The table with one more item, grown if need be. -/
def add (table : HashTable) (hash : UInt64) (item : Nat) : HashTable :=
  let table := table.put hash item
  if table.isCrowded table.used then
    table.resized (if 50000 < table.used then table.used * 2 else table.used * 4)
  else table

/-- The table of items that are added one by one. -/
def ofHashes (hashes : List Int) : HashTable :=
  (hashes.zipIdx).foldl (fun t e => t.add (TypeExpr.hashBits e.1) e.2) (empty minSize)

/-- The table into which all items of another are put at once. -/
def ofTable (other : HashTable) : HashTable :=
  let start := empty minSize
  let start := if start.isCrowded other.used then empty (sizeFor (other.used * 2)) else start
  if start.slots.size = other.slots.size then other
  else other.items.foldl (fun t e => t.put e.1 e.2) start

/-- The numbers of the items, slot by slot. -/
def order (table : HashTable) : List Nat :=
  table.items.map Prod.snd

end HashTable

end HttpInterface
