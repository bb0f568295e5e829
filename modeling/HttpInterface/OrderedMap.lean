/-!
# `HttpInterface.OrderedMap`: maps that remember the order of insertion

A map is the list of its entries, oldest key first, and no key occurs twice.
Setting a key that is there already keeps its place; a new key goes to the end.
The list of entries is the view in which every operation is described.
-/

set_option autoImplicit false

namespace HttpInterface

/-- A map whose keys keep the order of their first insertion. -/
@[ext] structure OrderedMap (κ α : Type) where
  /-- The entries, oldest key first. -/
  entries : List (κ × α)
  /-- No key occurs twice. -/
  nodup_keys : (entries.map Prod.fst).Nodup
  deriving DecidableEq

namespace OrderedMap

variable {κ α β : Type}

/-- The map without entries. -/
def empty : OrderedMap κ α := ⟨[], List.nodup_nil⟩

instance : Inhabited (OrderedMap κ α) := ⟨empty⟩

/-- The keys in their order. -/
def keys (m : OrderedMap κ α) : List κ :=
  m.entries.map Prod.fst

/-- The values in the order of their keys. -/
def values (m : OrderedMap κ α) : List α :=
  m.entries.map Prod.snd

/-- The map has no entry. -/
def isEmpty (m : OrderedMap κ α) : Bool :=
  m.entries.isEmpty

/-- Changes every value and no key. -/
def mapValues (f : α → β) (m : OrderedMap κ α) : OrderedMap κ β where
  entries := m.entries.map fun e => (e.1, f e.2)
  nodup_keys := by
    have h := m.nodup_keys
    simpa [Function.comp_def] using h

variable [DecidableEq κ]

/-- The value of a key. -/
def get? (m : OrderedMap κ α) (k : κ) : Option α :=
  m.entries.lookup k

/-- The key has a value. -/
def contains (m : OrderedMap κ α) (k : κ) : Bool :=
  m.keys.contains k

/-- The entries after `k` is set to `v`. -/
def setEntry (k : κ) (v : α) : List (κ × α) → List (κ × α)
  | [] => [(k, v)]
  | e :: rest => if e.1 = k then (k, v) :: rest else e :: setEntry k v rest

/-- Setting a key adds it at the end unless it is there. -/
theorem keys_setEntry (k : κ) (v : α) (entries : List (κ × α)) :
    (setEntry k v entries).map Prod.fst =
      if k ∈ entries.map Prod.fst then entries.map Prod.fst
      else entries.map Prod.fst ++ [k] := by
  induction entries with
  | nil => rfl
  | cons e rest ih =>
    unfold setEntry
    by_cases he : e.1 = k
    · simp [he]
    · have hne : k ≠ e.1 := Ne.symm he
      simp only [he, if_false, List.map_cons, ih, List.mem_cons, hne, false_or]
      split <;> rfl

/-- The value of a key after `k` is set: the new one for `k`, the old one for any
other key. -/
theorem lookup_setEntry (k l : κ) (v : α) (entries : List (κ × α)) :
    (setEntry k v entries).lookup l = if l = k then some v else entries.lookup l := by
  induction entries with
  | nil =>
    by_cases h : l = k
    · simp [setEntry, h]
    · have hb : (l == k) = false := beq_false_of_ne h
      simp [setEntry, List.lookup_cons, hb, h]
  | cons e rest ih =>
    obtain ⟨first, old⟩ := e
    unfold setEntry
    by_cases he : first = k
    · by_cases h : l = k
      · simp [he, h]
      · have hb : (l == k) = false := beq_false_of_ne h
        simp [he, h, List.lookup_cons, hb]
    · by_cases hl : l = first
      · simp [he, hl]
      · have hb : (l == first) = false := beq_false_of_ne hl
        simp only [he, if_false, List.lookup_cons, hb]
        exact ih

/-- Sets a key: in place if it is there, else at the end. -/
def insert (m : OrderedMap κ α) (k : κ) (v : α) : OrderedMap κ α where
  entries := setEntry k v m.entries
  nodup_keys := by
    rw [keys_setEntry]
    split
    · exact m.nodup_keys
    · next h =>
      rw [List.nodup_append]
      refine ⟨m.nodup_keys, by simp, ?_⟩
      intro a ha b hb hab
      rw [List.mem_singleton.1 hb] at hab
      exact h (hab ▸ ha)

/-- Removes a key. -/
def erase (m : OrderedMap κ α) (k : κ) : OrderedMap κ α where
  entries := m.entries.filter fun e => e.1 ≠ k
  nodup_keys :=
    m.nodup_keys.sublist ((List.filter_sublist (l := m.entries)).map Prod.fst)

/-- The map that the entries build when they are set one after the other. -/
def ofList (entries : List (κ × α)) : OrderedMap κ α :=
  entries.foldl (fun m e => m.insert e.1 e.2) empty

/-- Both maps have the same entries, in any order, up to `same` on values. -/
def equivBy (same : α → α → Bool) (a b : OrderedMap κ α) : Bool :=
  a.entries.length == b.entries.length &&
    a.entries.all fun e => (b.get? e.1).any (same e.2)

/-- Adds values at the end of those of a key. -/
def extend (m : OrderedMap κ (List α)) (k : κ) (vs : List α) :
    OrderedMap κ (List α) :=
  m.insert k ((m.get? k).getD [] ++ vs)

/-- Adds one value at the end of those of a key. -/
def push (m : OrderedMap κ (List α)) (k : κ) (v : α) : OrderedMap κ (List α) :=
  m.extend k [v]

/-! ### Small facts on the view -/

theorem entries_insert (m : OrderedMap κ α) (k : κ) (v : α) :
    (m.insert k v).entries = setEntry k v m.entries := rfl

theorem keys_insert (m : OrderedMap κ α) (k : κ) (v : α) :
    (m.insert k v).keys = if k ∈ m.keys then m.keys else m.keys ++ [k] :=
  keys_setEntry k v m.entries

/-- Setting a key gives it its value and changes no other. -/
theorem get?_insert (m : OrderedMap κ α) (k l : κ) (v : α) :
    (m.insert k v).get? l = if l = k then some v else m.get? l :=
  lookup_setEntry k l v m.entries

theorem entries_erase (m : OrderedMap κ α) (k : κ) :
    (m.erase k).entries = m.entries.filter fun e => e.1 ≠ k := rfl

end OrderedMap

end HttpInterface
