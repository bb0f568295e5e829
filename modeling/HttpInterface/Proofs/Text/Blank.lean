import HttpInterface.Text.Blank
import Mathlib.Data.List.Basic
import Mathlib.Data.List.TakeWhile

/-!
# `HttpInterface.Proofs.Text.Blank`: texts between blanks

Trimming and the cutting of words are described by how the text is put together. A text
is `Trimmed` when no blank stands at either end. `trim_eq_iff` says that trimming finds
the trimmed text between blanks, and `cutFirstWord_eq_iff` that a text is cut into a
word, the blanks behind it and a rest that begins with no blank, where a rest needs at
least one blank in front of it. What holds at one end of a text holds at the other end of
the reversed text, so `cutLastWord_eq_iff` is `cutFirstWord_eq_iff` read from behind.

`firstWord` and `lastWord` are the words at the ends of a text that may have blanks around
them.
-/

set_option autoImplicit false

namespace HttpInterface.Text

/-- Nothing but blanks. -/
def Blanks (cs : List Char) : Prop :=
  ∀ c ∈ cs, isBlank c = true

/-- No blank at all. -/
def Unbroken (cs : List Char) : Prop :=
  ∀ c ∈ cs, isBlank c = false

/-- No blank comes first. -/
def StartsSolid (cs : List Char) : Prop :=
  ∀ c ∈ cs.head?, isBlank c = false

/-- No blank comes last. -/
def EndsSolid (cs : List Char) : Prop :=
  ∀ c ∈ cs.getLast?, isBlank c = false

/-- No blank stands at either end. -/
structure Trimmed (cs : List Char) : Prop where
  starts : StartsSolid cs
  ends : EndsSolid cs

instance (cs : List Char) : Decidable (Blanks cs) :=
  decidable_of_iff (cs.all isBlank = true) List.all_eq_true

instance (cs : List Char) : Decidable (Unbroken cs) :=
  decidable_of_iff (cs.all (!isBlank ·) = true) (by simp [Unbroken])

instance (cs : List Char) : Decidable (StartsSolid cs) :=
  decidable_of_iff (cs.head?.all (!isBlank ·) = true) (by simp [StartsSolid, Option.all_eq_true])

instance (cs : List Char) : Decidable (EndsSolid cs) :=
  decidable_of_iff (cs.getLast?.all (!isBlank ·) = true) (by simp [EndsSolid, Option.all_eq_true])

instance (cs : List Char) : Decidable (Trimmed cs) :=
  decidable_of_iff (StartsSolid cs ∧ EndsSolid cs) ⟨fun h => ⟨h.1, h.2⟩, fun h => ⟨h.1, h.2⟩⟩

/-- The first word of a text that may begin with blanks. -/
def firstWord (cs : List Char) : List Char :=
  (trimStart cs).takeWhile (!isBlank ·)

/-- The last word of a text that may end with blanks. -/
def lastWord (cs : List Char) : List Char :=
  ((trimEnd cs).reverse.takeWhile (!isBlank ·)).reverse

variable {cs t word rest front w : List Char}

/-! ### Blanks and words -/

theorem isBlank_iff {c : Char} :
    isBlank c = true ↔ ∃ r ∈ blankRanges, r.1 ≤ c.toNat ∧ c.toNat ≤ r.2 := by
  simp [isBlank]

/-- A row of characters that lies beside all ranges of blanks holds none. -/
theorem isBlank_eq_false_of_range {c : Char} (low high : Nat)
    (htable : ∀ r ∈ blankRanges, high < r.1 ∨ r.2 < low) (hlow : low ≤ c.toNat)
    (hhigh : c.toNat ≤ high) : isBlank c = false := by
  refine Bool.eq_false_iff.2 fun hblank => ?_
  obtain ⟨r, hr, hrange⟩ := isBlank_iff.1 hblank
  have := htable r hr
  omega

theorem blanks_nil : Blanks [] := fun _ h => absurd h List.not_mem_nil

theorem Blanks.append {v : List Char} (hw : Blanks w) (hv : Blanks v) : Blanks (w ++ v) :=
  fun c hc => (List.mem_append.1 hc).elim (hw c) (hv c)

theorem Blanks.reverse (h : Blanks w) : Blanks w.reverse :=
  fun c hc => h c (List.mem_reverse.1 hc)

theorem Unbroken.append {v : List Char} (hw : Unbroken w) (hv : Unbroken v) : Unbroken (w ++ v) :=
  fun c hc => (List.mem_append.1 hc).elim (hw c) (hv c)

theorem Unbroken.reverse (h : Unbroken word) : Unbroken word.reverse :=
  fun c hc => h c (List.mem_reverse.1 hc)

theorem endsSolid_iff : EndsSolid cs ↔ StartsSolid cs.reverse := by
  rw [EndsSolid, StartsSolid, List.head?_reverse]

theorem startsSolid_nil : StartsSolid [] := fun _ h => nomatch h

theorem trimmed_nil : Trimmed [] := ⟨startsSolid_nil, fun _ h => nomatch h⟩

theorem Unbroken.trimmed (h : Unbroken word) : Trimmed word :=
  ⟨fun c hc => h c (List.mem_of_mem_head? hc), fun c hc => h c (List.mem_of_getLast? hc)⟩

/-- The end of a text is that of its last part, if there is something in it. -/
theorem endsSolid_append (hne : rest ≠ []) : EndsSolid (front ++ rest) ↔ EndsSolid rest := by
  rw [EndsSolid, EndsSolid, List.getLast?_append_of_ne_nil front hne]

theorem startsSolid_append (hne : front ≠ []) :
    StartsSolid (front ++ rest) ↔ StartsSolid front := by
  obtain ⟨c, front, rfl⟩ := List.exists_cons_of_ne_nil hne
  exact Iff.rfl

/-- Solid ends stay where parts with something in them are put together. -/
theorem Trimmed.append {a b : List Char} (ha : Trimmed a) (hb : Trimmed b) (hane : a ≠ [])
    (hbne : b ≠ []) (mid : List Char) : Trimmed (a ++ mid ++ b) where
  starts := by
    rw [List.append_assoc, startsSolid_append hane]
    exact ha.starts
  ends := by
    rw [endsSolid_append hbne]
    exact hb.ends

/-! ### Trimming -/

theorem trimStart_eq_iff : trimStart cs = t ↔ StartsSolid t ∧ ∃ w, Blanks w ∧ cs = w ++ t := by
  constructor
  · rintro rfl
    refine ⟨fun c hc => ?_, cs.takeWhile isBlank, fun c hc => List.mem_takeWhile_imp hc, ?_⟩
    · have hstop := List.head?_dropWhile_not isBlank cs
      rw [trimStart] at hc
      rw [Option.mem_def.1 hc] at hstop
      exact hstop
    · exact List.takeWhile_append_dropWhile.symm
  · rintro ⟨ht, w, hw, rfl⟩
    rw [trimStart, List.dropWhile_append_of_pos hw]
    cases t with
    | nil => rfl
    | cons c t => exact List.dropWhile_cons_of_neg (by simp [ht c rfl])

/-- Trimming at the end is trimming the reversed text at its start. -/
theorem trimEnd_eq_reverse (cs : List Char) : trimEnd cs = (trimStart cs.reverse).reverse := rfl

theorem trimEnd_eq_iff : trimEnd cs = t ↔ EndsSolid t ∧ ∃ w, Blanks w ∧ cs = t ++ w := by
  rw [trimEnd_eq_reverse, List.reverse_eq_iff, trimStart_eq_iff, endsSolid_iff]
  refine and_congr_right fun _ => ⟨?_, ?_⟩
  · rintro ⟨w, hw, h⟩
    exact ⟨w.reverse, hw.reverse, by simpa using congrArg List.reverse h⟩
  · rintro ⟨w, hw, rfl⟩
    exact ⟨w.reverse, hw.reverse, List.reverse_append⟩

/-- Trimming finds the text that stands between blanks. -/
theorem trim_eq_iff :
    trim cs = t ↔ Trimmed t ∧ ∃ w₀ w₁, Blanks w₀ ∧ Blanks w₁ ∧ cs = w₀ ++ t ++ w₁ := by
  rw [trim, trimEnd_eq_iff]
  constructor
  · rintro ⟨hends, w₁, hw₁, h⟩
    obtain ⟨hstarts, w₀, hw₀, rfl⟩ := trimStart_eq_iff.1 h
    -- Where `t` is empty, so is the start of it.
    refine ⟨⟨?_, hends⟩, w₀, w₁, hw₀, hw₁, (List.append_assoc ..).symm⟩
    by_cases ht : t = []
    · exact ht ▸ startsSolid_nil
    · exact (startsSolid_append ht).1 hstarts
  · rintro ⟨ht, w₀, w₁, hw₀, hw₁, rfl⟩
    by_cases hnil : t = []
    · subst hnil
      refine ⟨ht.ends, [], blanks_nil, trimStart_eq_iff.2 ⟨startsSolid_nil, w₀ ++ w₁, ?_⟩⟩
      exact ⟨hw₀.append hw₁, by simp⟩
    · refine ⟨ht.ends, w₁, hw₁, trimStart_eq_iff.2 ⟨?_, w₀, hw₀, List.append_assoc ..⟩⟩
      exact (startsSolid_append hnil).2 ht.starts

theorem trim_append {w₀ w₁ : List Char} (hw₀ : Blanks w₀) (ht : Trimmed t) (hw₁ : Blanks w₁) :
    trim (w₀ ++ t ++ w₁) = t :=
  trim_eq_iff.2 ⟨ht, w₀, w₁, hw₀, hw₁, rfl⟩

/-- Nothing is left of a text exactly if it is nothing but blanks. -/
theorem trim_eq_nil_iff : trim cs = [] ↔ Blanks cs := by
  rw [trim_eq_iff]
  constructor
  · rintro ⟨-, w₀, w₁, hw₀, hw₁, rfl⟩
    rw [List.append_nil]
    exact hw₀.append hw₁
  · intro h
    exact ⟨trimmed_nil, cs, [], h, blanks_nil, by simp⟩

theorem trim_ne_nil_iff : trim cs ≠ [] ↔ ∃ c ∈ cs, isBlank c = false := by
  rw [Ne, trim_eq_nil_iff, Blanks]
  simp

/-! ### The word at an end -/

/-- A word ends where a blank stands or nothing at all. -/
theorem takeWhile_append_word (hword : Unbroken word) (hrest : ∀ c ∈ rest.head?, isBlank c = true) :
    (word ++ rest).takeWhile (!isBlank ·) = word ∧
      (word ++ rest).dropWhile (!isBlank ·) = rest := by
  have hsolid : ∀ c ∈ word, (!isBlank c) = true := fun c hc => by simp [hword c hc]
  rw [List.takeWhile_append_of_pos hsolid, List.dropWhile_append_of_pos hsolid]
  cases rest with
  | nil => simp
  | cons c rest => simp [hrest c rfl]

theorem cutFirstWord_eq_iff :
    cutFirstWord cs = (word, rest) ↔ Unbroken word ∧ StartsSolid rest ∧
      ∃ w, Blanks w ∧ (w = [] → rest = []) ∧ cs = word ++ w ++ rest := by
  constructor
  · intro h
    obtain ⟨rfl, rfl⟩ := Prod.mk.inj h
    obtain ⟨hsolid, w, hw, hsplit⟩ :=
      trimStart_eq_iff.1 (rfl : trimStart (cs.dropWhile (!isBlank ·)) = _)
    refine ⟨fun c hc => by simpa using List.mem_takeWhile_imp hc, hsolid, w, hw, ?_, ?_⟩
    · -- Behind the word stands a blank or nothing.
      rintro rfl
      have hstop := List.head?_dropWhile_not (!isBlank ·) cs
      rw [List.nil_append] at hsplit
      rw [← hsplit] at hsolid ⊢
      cases hrest : cs.dropWhile (!isBlank ·) with
      | nil => rfl
      | cons c r =>
        rw [hrest] at hsolid hstop
        exact absurd (hsolid c rfl) (by simpa using hstop)
    · rw [List.append_assoc, ← hsplit, List.takeWhile_append_dropWhile]
  · rintro ⟨hword, hrest, w, hw, hne, rfl⟩
    have hbreak : ∀ c ∈ (w ++ rest).head?, isBlank c = true := by
      cases w with
      | nil =>
        rw [hne rfl]
        exact fun c hc => nomatch hc
      | cons b w =>
        intro c hc
        exact Option.some.inj hc ▸ hw b List.mem_cons_self
    obtain ⟨htake, hdrop⟩ := takeWhile_append_word hword hbreak
    rw [List.append_assoc, cutFirstWord, htake, hdrop, trimStart_eq_iff.2 ⟨hrest, w, hw, rfl⟩]

/-- The last word is the first one of the reversed text. -/
theorem cutLastWord_eq_reverse (cs : List Char) :
    cutLastWord cs =
      ((cutFirstWord cs.reverse).2.reverse, (cutFirstWord cs.reverse).1.reverse) := by
  rw [cutLastWord, trimEnd_eq_reverse, List.reverse_reverse]
  rfl

theorem cutLastWord_eq_iff :
    cutLastWord cs = (front, word) ↔ Unbroken word ∧ EndsSolid front ∧
      ∃ w, Blanks w ∧ (w = [] → front = []) ∧ cs = front ++ w ++ word := by
  have hreverse : cutLastWord cs = (front, word) ↔
      cutFirstWord cs.reverse = (word.reverse, front.reverse) := by
    rw [cutLastWord_eq_reverse, Prod.ext_iff, Prod.ext_iff]
    simp only [List.reverse_eq_iff, and_comm]
  rw [hreverse, cutFirstWord_eq_iff, endsSolid_iff]
  constructor
  · rintro ⟨hword, hfront, w, hw, hne, h⟩
    refine ⟨by simpa using hword.reverse, hfront, w.reverse, hw.reverse, by simpa using hne, ?_⟩
    simpa using congrArg List.reverse h
  · rintro ⟨hword, hfront, w, hw, hne, rfl⟩
    exact ⟨hword.reverse, hfront, w.reverse, hw.reverse, by simpa using hne, by simp⟩

/-- Blanks at the end belong to no word. -/
theorem takeWhile_append_blanks (hw : Blanks w) :
    (cs ++ w).takeWhile (!isBlank ·) = cs.takeWhile (!isBlank ·) := by
  have hnone : w.takeWhile (!isBlank ·) = [] := by
    cases w with
    | nil => rfl
    | cons b w => exact List.takeWhile_cons_of_neg (by simp [hw b List.mem_cons_self])
  rw [List.takeWhile_append, hnone, List.append_nil]
  split
  · next hlength => exact ((List.takeWhile_prefix _).eq_of_length hlength).symm
  · rfl

/-- The first word is the one that is cut off the trimmed text. -/
theorem cutFirstWord_trim_fst (cs : List Char) : (cutFirstWord (trim cs)).1 = firstWord cs := by
  obtain ⟨-, w, hw, hsplit⟩ := trimEnd_eq_iff.1 (rfl : trimEnd (trimStart cs) = trim cs)
  rw [firstWord, hsplit, takeWhile_append_blanks hw]
  rfl

/-- The last word of a text stands behind a blank and in front of blanks. -/
theorem lastWord_append {w w' : List Char} (hw : Blanks w) (hne : w ≠ []) (hword : Unbroken word)
    (hwordne : word ≠ []) (hw' : Blanks w') : lastWord (front ++ w ++ word ++ w') = word := by
  have hends : EndsSolid (front ++ w ++ word) :=
    (endsSolid_append hwordne).2 hword.trimmed.ends
  have hbreak : ∀ c ∈ (front ++ w).reverse.head?, isBlank c = true := by
    rw [List.head?_reverse, List.getLast?_append_of_ne_nil front hne]
    exact fun c hc => hw c (List.mem_of_getLast? hc)
  rw [lastWord, trimEnd_eq_iff.2 ⟨hends, w', hw', rfl⟩, List.reverse_append,
    (takeWhile_append_word hword.reverse hbreak).1, List.reverse_reverse]

end HttpInterface.Text
