/-!
# `HttpInterface.Class.Linearization`: one order for all ancestors

The ancestors of a class are put into one order that respects the orders of its
bases and the order in which the bases are listed. `merge` takes, again and
again, the first head that is in no tail; if every head is in some tail there is
no such order, and the heads are reported.

Each step removes one element from at least one list, so the merge ends.
-/

set_option autoImplicit false

namespace HttpInterface.Linearization

variable {α : Type} [DecidableEq α]

/-- The first elements of the lists that are not empty. -/
def heads (lists : List (List α)) : List α :=
  lists.filterMap List.head?

/-- The element stands in some list behind its first element. -/
def inTail (a : α) (lists : List (List α)) : Bool :=
  lists.any fun l => l.tail.contains a

/-- The head that the merge takes next. -/
def next? (lists : List (List α)) : Option α :=
  (heads lists).find? fun a => !inTail a lists

/-- One list after `a` is taken from its front, if it starts with `a`. -/
def dropFront (a : α) (l : List α) : List α :=
  if l.head? = some a then l.tail else l

/-- The lists after `a` is taken from the front of those that start with it. -/
def dropHead (a : α) (lists : List (List α)) : List (List α) :=
  lists.map (dropFront a)

/-- How many elements the lists have together. -/
def total : List (List α) → Nat
  | [] => 0
  | l :: rest => l.length + total rest

theorem length_dropFront_le (a : α) (l : List α) : (dropFront a l).length ≤ l.length := by
  unfold dropFront
  split
  · exact (List.tail_sublist l).length_le
  · exact Nat.le_refl _

theorem length_dropFront_lt {a : α} {l : List α} (h : l.head? = some a) :
    (dropFront a l).length < l.length := by
  obtain ⟨rest, rfl⟩ := List.head?_eq_some_iff.1 h
  simp [dropFront]

theorem total_dropHead_le (a : α) (lists : List (List α)) :
    total (dropHead a lists) ≤ total lists := by
  induction lists with
  | nil => exact Nat.le_refl _
  | cons l rest ih => exact Nat.add_le_add (length_dropFront_le a l) ih

/-- Dropping a head that stands in front of some list leaves fewer elements. -/
theorem total_dropHead_lt {a : α} {lists : List (List α)} (h : a ∈ heads lists) :
    total (dropHead a lists) < total lists := by
  obtain ⟨l, hl, ha⟩ := List.mem_filterMap.1 h
  induction lists with
  | nil => exact absurd hl List.not_mem_nil
  | cons k rest ih =>
    rcases List.mem_cons.1 hl with rfl | hrest
    · exact Nat.add_lt_add_of_lt_of_le (length_dropFront_lt ha) (total_dropHead_le a rest)
    · have hmem : a ∈ heads rest := List.mem_filterMap.2 ⟨l, hrest, ha⟩
      exact Nat.add_lt_add_of_le_of_lt (length_dropFront_le a k) (ih hmem hrest)

/-- The lists in one order, or the heads that block each other. -/
def merge (lists : List (List α)) : Except (List α) (List α) :=
  match _h : next? lists with
  | some a => (merge (dropHead a lists)).map (a :: ·)
  | none => if (heads lists).isEmpty then .ok [] else .error (heads lists).eraseDups
termination_by total lists
decreasing_by exact total_dropHead_lt (List.mem_of_find?_eq_some _h)

end HttpInterface.Linearization
