import HttpInterface.Text.Split

/-!
# `HttpInterface.Proofs.Text.Split`: cutting undoes joining

`Text.Split` shows that joining undoes splitting (`joinWith_splitOn`). Here is the
other direction: what was joined splits into the same pieces, provided that no
piece holds the separator (`splitOn_joinWith`), and a text is cut where its first
separator stands (`cut_append`). Splitting goes together with what is done to the characters one
by one (`splitOn_flatMap`). No piece that a split or a cut gives holds the
separator (`not_mem_of_mem_splitOn`, `not_mem_cut_fst`), and none holds a character
that the text did not hold.
-/

set_option autoImplicit false

namespace HttpInterface.Text

/-! ### Cutting once -/

/-- A text is cut behind a front that holds no separator. -/
theorem cut_append_of_not_mem {sep : Char} {a : List Char} (h : sep ∉ a) (b : List Char) :
    cut sep (a ++ b) = (a ++ (cut sep b).1, (cut sep b).2) := by
  induction a with
  | nil => rfl
  | cons c a ih =>
    rw [List.mem_cons, not_or] at h
    rw [List.cons_append, cut, if_neg (Ne.symm h.1), ih h.2]
    rfl

theorem cut_append {sep : Char} {a : List Char} (h : sep ∉ a) (b : List Char) :
    cut sep (a ++ sep :: b) = (a, some b) := by
  rw [cut_append_of_not_mem h, cut, if_pos rfl, List.append_nil]

theorem cut_of_not_mem {sep : Char} {cs : List Char} (h : sep ∉ cs) : cut sep cs = (cs, none) := by
  have hcut := cut_append_of_not_mem h []
  rwa [List.append_nil, cut, List.append_nil] at hcut

/-- A text is its front alone, or its front, the first separator and the rest. -/
theorem cut_cases (sep : Char) (cs : List Char) :
    (sep ∉ cs ∧ cut sep cs = (cs, none)) ∨
      ∃ a b, cs = a ++ sep :: b ∧ sep ∉ a ∧ cut sep cs = (a, some b) := by
  by_cases h : sep ∈ cs
  · obtain ⟨a, b, rfl, ha⟩ := List.eq_append_cons_of_mem h
    exact Or.inr ⟨a, b, rfl, ha, cut_append ha b⟩
  · exact Or.inl ⟨h, cut_of_not_mem h⟩

theorem not_mem_cut_fst (sep : Char) (cs : List Char) : sep ∉ (cut sep cs).1 := by
  rcases cut_cases sep cs with ⟨h, heq⟩ | ⟨a, b, -, ha, heq⟩
  · rw [heq]
    exact h
  · rw [heq]
    exact ha

theorem mem_of_mem_cut_fst {sep c : Char} {cs : List Char} (h : c ∈ (cut sep cs).1) : c ∈ cs := by
  rcases cut_cases sep cs with ⟨-, heq⟩ | ⟨a, b, rfl, -, heq⟩
  · rwa [heq] at h
  · rw [heq] at h
    exact List.mem_append_left _ h

theorem mem_of_mem_cut_snd {sep c : Char} {cs v : List Char} (hv : (cut sep cs).2 = some v)
    (h : c ∈ v) : c ∈ cs := by
  rcases cut_cases sep cs with ⟨-, heq⟩ | ⟨a, b, rfl, -, heq⟩
  · rw [heq] at hv
    exact nomatch hv
  · rw [heq] at hv
    obtain rfl := Option.some.inj hv
    exact List.mem_append_right _ (List.mem_cons_of_mem _ h)

/-- A text that is written character by character is cut where the separator was. -/
theorem cut_flatMap {sep : Char} {write : Char → List Char} (hsep : write sep = [sep])
    (hother : ∀ c, c ≠ sep → sep ∉ write c) (cs : List Char) :
    cut sep (cs.flatMap write) =
      ((cut sep cs).1.flatMap write, (cut sep cs).2.map fun rest => rest.flatMap write) := by
  have hnone : ∀ a : List Char, sep ∉ a → sep ∉ a.flatMap write := by
    intro a ha hmem
    obtain ⟨c, hc, hmem⟩ := List.mem_flatMap.1 hmem
    exact hother c (fun h => ha (h ▸ hc)) hmem
  rcases cut_cases sep cs with ⟨hmem, hcut⟩ | ⟨a, b, rfl, ha, hcut⟩
  · rw [hcut, cut_of_not_mem (hnone cs hmem)]
    rfl
  · rw [hcut, List.flatMap_append, List.flatMap_cons, hsep, List.singleton_append,
      cut_append (hnone a ha)]
    rfl

/-! ### Splitting everywhere -/

/-- Splitting a text that starts with a character that is no separator puts the
character in front of the first piece. -/
theorem splitOn_cons_of_ne {sep c : Char} (h : c ≠ sep) (cs : List Char) :
    ∃ piece pieces, splitOn sep cs = piece :: pieces ∧
      splitOn sep (c :: cs) = (c :: piece) :: pieces := by
  obtain ⟨piece, pieces, hs⟩ := List.exists_cons_of_ne_nil (splitOn_ne_nil sep cs)
  exact ⟨piece, pieces, hs, by rw [splitOn, if_neg h, hs]⟩

theorem splitOn_of_not_mem {sep : Char} {cs : List Char} (h : sep ∉ cs) :
    splitOn sep cs = [cs] := by
  induction cs with
  | nil => rfl
  | cons c r ih =>
    rw [List.mem_cons, not_or] at h
    rw [splitOn, if_neg (Ne.symm h.1), ih h.2]

/-- Both sides of a separator are split on their own. -/
theorem splitOn_append_cons (sep : Char) (a b : List Char) :
    splitOn sep (a ++ sep :: b) = splitOn sep a ++ splitOn sep b := by
  induction a with
  | nil => simp [splitOn]
  | cons c a ih =>
    by_cases hc : c = sep
    · rw [List.cons_append, splitOn, if_pos hc, ih, splitOn, if_pos hc, List.cons_append]
    · obtain ⟨piece, pieces, hs, hcons⟩ := splitOn_cons_of_ne hc a
      rw [List.cons_append, splitOn, if_neg hc, ih, hs, hcons]
      rfl

theorem splitOn_append {sep : Char} {a : List Char} (h : sep ∉ a) (b : List Char) :
    splitOn sep (a ++ sep :: b) = a :: splitOn sep b := by
  rw [splitOn_append_cons, splitOn_of_not_mem h, List.singleton_append]

theorem joinWith_cons_cons (sep : Char) (p q : List Char) (rest : List (List Char)) :
    joinWith sep (p :: q :: rest) = p ++ sep :: joinWith sep (q :: rest) := rfl

/-- Splitting undoes joining. -/
theorem splitOn_joinWith {sep : Char} {pieces : List (List Char)} (hne : pieces ≠ [])
    (h : ∀ p ∈ pieces, sep ∉ p) : splitOn sep (joinWith sep pieces) = pieces := by
  induction pieces with
  | nil => exact absurd rfl hne
  | cons p rest ih =>
    have hp : sep ∉ p := h p List.mem_cons_self
    cases rest with
    | nil => exact splitOn_of_not_mem hp
    | cons q rest =>
      rw [joinWith_cons_cons, splitOn_append hp,
        ih (List.cons_ne_nil q rest) fun r hr => h r (List.mem_cons_of_mem _ hr)]

theorem not_mem_of_mem_splitOn {sep : Char} {cs p : List Char} (h : p ∈ splitOn sep cs) :
    sep ∉ p := by
  induction cs generalizing p with
  | nil =>
    rw [splitOn, List.mem_singleton] at h
    simp [h]
  | cons c r ih =>
    by_cases hc : c = sep
    · rw [splitOn, if_pos hc, List.mem_cons] at h
      rcases h with rfl | h
      · exact List.not_mem_nil
      · exact ih h
    · obtain ⟨piece, pieces, hs, hcons⟩ := splitOn_cons_of_ne hc r
      rw [hs] at ih
      rw [hcons, List.mem_cons] at h
      rcases h with rfl | h
      · simpa [Ne.symm hc] using ih List.mem_cons_self
      · exact ih (List.mem_cons_of_mem _ h)

/-- Characters that are written in another way are written so piece by piece, if the separator
stays as it is and no other character brings it in. -/
theorem splitOn_flatMap {sep : Char} {write : Char → List Char} (hsep : write sep = [sep])
    (hother : ∀ c, c ≠ sep → sep ∉ write c) (cs : List Char) :
    splitOn sep (cs.flatMap write) = (splitOn sep cs).map fun piece => piece.flatMap write := by
  -- Writing goes through a join, so splitting undoes the join of the written pieces.
  have hjoin : ∀ pieces : List (List Char), (joinWith sep pieces).flatMap write =
      joinWith sep (pieces.map fun piece => piece.flatMap write) := by
    intro pieces
    induction pieces with
    | nil => rfl
    | cons p rest ih =>
      cases rest with
      | nil => rfl
      | cons q rest =>
        rw [joinWith_cons_cons, List.flatMap_append, List.flatMap_cons, hsep, ih]
        rfl
  have hpieces : ∀ p ∈ (splitOn sep cs).map fun piece => piece.flatMap write, sep ∉ p := by
    intro p hp hmem
    obtain ⟨piece, hpiece, rfl⟩ := List.mem_map.1 hp
    obtain ⟨c, hc, hmem⟩ := List.mem_flatMap.1 hmem
    have hne : c ≠ sep := fun h => not_mem_of_mem_splitOn hpiece (h ▸ hc)
    exact hother c hne hmem
  calc splitOn sep (cs.flatMap write)
    _ = splitOn sep ((joinWith sep (splitOn sep cs)).flatMap write) := by rw [joinWith_splitOn]
    _ = splitOn sep (joinWith sep ((splitOn sep cs).map fun piece => piece.flatMap write)) := by
      rw [hjoin]
    _ = (splitOn sep cs).map fun piece => piece.flatMap write :=
      splitOn_joinWith (by simpa using splitOn_ne_nil sep cs) hpieces

end HttpInterface.Text
