import HttpInterface.Class.Linearization
import Mathlib.Data.List.Perm.Subperm

/-!
# `HttpInterface.Proofs.Class.Linearization`: what a merged order keeps

A merge that succeeds is a row of steps, each of which takes one head that is in no tail. `Merges`
is that row, and three facts are read off it by induction: every merged list is found in the order
as it was (`sublist`), the order brings nothing else (`exists_mem`), and it repeats nothing
(`nodup`), since what is taken is in no list any more.

Together they say where an order of several lists has to agree with one of them: if every element
of some kind is in that list, the elements of this kind stand as they do there
(`filter_eq_of_sublist`).
-/

set_option autoImplicit false

namespace HttpInterface

/-- A row without repetitions has the elements of some kind in the order of any part of it that
holds them all. -/
theorem filter_eq_of_sublist {α : Type} {p : α → Bool} {part row : List α}
    (h : part.Sublist row) (hnodup : row.Nodup) (hall : ∀ a ∈ row, p a = true → a ∈ part) :
    row.filter p = part.filter p := by
  have hsubset : row.filter p ⊆ part.filter p := by
    intro a ha
    obtain ⟨hrow, hp⟩ := List.mem_filter.1 ha
    exact List.mem_filter.2 ⟨hall a hrow hp, hp⟩
  have hlength : (row.filter p).length ≤ (part.filter p).length :=
    (List.Nodup.subperm (hnodup.filter p) hsubset).length_le
  exact ((h.filter p).eq_of_length_le hlength).symm

namespace Linearization

variable {α : Type} {a : α} {l order : List α} {lists : List (List α)}

theorem eq_nil_of_heads (h : heads lists = []) : ∀ l ∈ lists, l = [] := by
  intro l hl
  have hnone : l.head? = none := List.filterMap_eq_nil_iff.1 h l hl
  exact List.head?_eq_none_iff.1 hnone

variable [DecidableEq α]

/-- The order into which lists are merged, step by step. -/
inductive Merges : List (List α) → List α → Prop
  | done {lists : List (List α)} : (∀ l ∈ lists, l = []) → Merges lists []
  /-- A head that is in no tail is taken. -/
  | take {lists : List (List α)} {a : α} {order : List α} : a ∈ heads lists →
      inTail a lists = false → Merges (dropHead a lists) order → Merges lists (a :: order)

theorem merge_of_next (h : next? lists = some a) :
    merge lists = (merge (dropHead a lists)).map (a :: ·) := by
  rw [merge]
  split
  · next b hb => rw [Option.some.inj (h.symm.trans hb)]
  · next hnone => cases h.symm.trans hnone

theorem merge_of_no_next (h : next? lists = none) :
    merge lists = if (heads lists).isEmpty then .ok [] else .error (heads lists).eraseDups := by
  rw [merge]
  split
  · next b hb => cases h.symm.trans hb
  · rfl

/-- A merge that succeeds is a row of such steps. -/
theorem merges_of_merge (h : merge lists = .ok order) : Merges lists order := by
  induction lists using merge.induct generalizing order with
  | case1 lists a hnext ih =>
    rw [merge_of_next hnext] at h
    cases hrest : merge (dropHead a lists) with
    | error blocked =>
      rw [hrest] at h
      exact nomatch h
    | ok rest =>
      rw [hrest] at h
      obtain rfl : a :: rest = order := Except.ok.inj h
      have hfree : inTail a lists = false := by simpa using List.find?_some hnext
      exact .take (List.mem_of_find?_eq_some hnext) hfree (ih hrest)
  | case2 lists hnext hheads =>
    rw [merge_of_no_next hnext, if_pos hheads] at h
    obtain rfl : [] = order := Except.ok.inj h
    exact .done (eq_nil_of_heads (List.isEmpty_iff.1 hheads))
  | case3 lists hnext hheads =>
    rw [merge_of_no_next hnext, if_neg hheads] at h
    exact nomatch h

/-- One step leaves a list as it is, or takes its first element. -/
theorem dropFront_cases (a : α) (l : List α) :
    dropFront a l = l ∧ l.head? ≠ some a ∨ l = a :: dropFront a l := by
  unfold dropFront
  split
  · next h =>
    obtain ⟨rest, rfl⟩ := List.head?_eq_some_iff.1 h
    exact Or.inr rfl
  · next h => exact Or.inl ⟨rfl, h⟩

/-- What is in no tail is in no list once it is taken. -/
theorem not_mem_dropFront (h : inTail a lists = false) (hl : l ∈ lists) : a ∉ dropFront a l := by
  have htail : a ∉ l.tail := by
    intro ha
    have hin : inTail a lists = true :=
      List.any_eq_true.2 ⟨l, hl, List.contains_iff_mem.2 ha⟩
    exact nomatch h.symm.trans hin
  rcases dropFront_cases a l with ⟨heq, hhead⟩ | heq
  · rw [heq]
    cases l with
    | nil => exact List.not_mem_nil
    | cons b rest =>
      rw [List.mem_cons]
      rintro (rfl | ha)
      · exact hhead rfl
      · exact htail ha
  · intro ha
    rw [heq] at htail
    exact htail ha

namespace Merges

/-- Every list is found in the order as it was. -/
theorem sublist (h : Merges lists order) : ∀ l ∈ lists, l.Sublist order := by
  induction h with
  | done hnil =>
    intro l hl
    rw [hnil l hl]
  | @take lists a order _ _ _ ih =>
    intro l hl
    have hrest : (dropFront a l).Sublist order := ih _ (List.mem_map_of_mem hl)
    rcases dropFront_cases a l with ⟨heq, -⟩ | heq
    · rw [heq] at hrest
      exact hrest.cons a
    · rw [heq]
      exact hrest.cons_cons a

/-- The order brings nothing that is in none of the lists. -/
theorem exists_mem (h : Merges lists order) : ∀ x ∈ order, ∃ l ∈ lists, x ∈ l := by
  induction h with
  | done => simp
  | @take lists a order hhead _ _ ih =>
    intro x hx
    rcases List.mem_cons.1 hx with rfl | hx
    · obtain ⟨l, hl, hfirst⟩ := List.mem_filterMap.1 hhead
      exact ⟨l, hl, List.mem_of_head? hfirst⟩
    · obtain ⟨l', hl', hxl'⟩ := ih x hx
      obtain ⟨l, hl, rfl⟩ := List.mem_map.1 hl'
      rcases dropFront_cases a l with ⟨heq, -⟩ | heq
      · exact ⟨l, hl, heq ▸ hxl'⟩
      · exact ⟨l, hl, heq ▸ List.mem_cons_of_mem a hxl'⟩

/-- The order repeats nothing. -/
theorem nodup (h : Merges lists order) : order.Nodup := by
  induction h with
  | done => exact List.nodup_nil
  | @take lists a order _ hfree hrest ih =>
    refine List.nodup_cons.2 ⟨fun ha => ?_, ih⟩
    -- What comes later is left in one of the lists, but `a` is left in none.
    obtain ⟨l', hl', hal'⟩ := hrest.exists_mem a ha
    obtain ⟨l, hl, rfl⟩ := List.mem_map.1 hl'
    exact not_mem_dropFront hfree hl hal'

/-- Where one of the lists has all elements of some kind, it says how they stand. -/
theorem filter_eq {p : α → Bool} (h : Merges lists order) (hl : l ∈ lists)
    (hall : ∀ k ∈ lists, ∀ a ∈ k, p a = true → a ∈ l) : order.filter p = l.filter p := by
  refine filter_eq_of_sublist (h.sublist l hl) h.nodup fun a ha hp => ?_
  obtain ⟨k, hk, hak⟩ := h.exists_mem a ha
  exact hall k hk a hak hp

end Merges

end Linearization

end HttpInterface
