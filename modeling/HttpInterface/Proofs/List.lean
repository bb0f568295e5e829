import Mathlib.Data.List.Induction

/-!
# `HttpInterface.Proofs.List`: rows without repetitions, rows of fallible steps

Names are listed in the order of their first occurrence, so `List.eraseDups` is
everywhere: `nodup_eraseDups` and `eraseDups_concat` say what it leaves, and
`pairwise_eraseDups` in which order.

A row of steps that may fail is a `mapM` or a `foldlM` over `Except`. Where no step
fails they are the plain `map` and `foldl` (`mapM_eq_ok`, `foldlM_eq_ok`), what
every step keeps the row keeps (`foldlM_invariant`), and the first step that fails
decides (`foldlM_eq_error`).
-/

set_option autoImplicit false

namespace HttpInterface

section

variable {α : Type} [BEq α] [LawfulBEq α]

/-- One more element counts only if it is new. -/
theorem eraseDups_concat (l : List α) (a : α) :
    (l ++ [a]).eraseDups = if l.contains a then l.eraseDups else l.eraseDups ++ [a] := by
  rw [List.eraseDups_append, List.removeAll]
  by_cases h : a ∈ l
  · simp [h]
  · simp [h, List.eraseDups_cons]

theorem nodup_eraseDups (l : List α) : l.eraseDups.Nodup := by
  -- One more element is listed behind all others, so the induction is on the end.
  induction l using List.reverseRecOn with
  | nil => exact List.nodup_nil
  | append_singleton l a ih =>
    rw [eraseDups_concat]
    split
    · exact ih
    · next ha =>
      refine List.pairwise_append.2 ⟨ih, List.pairwise_singleton _ _, fun b hb c hc => ?_⟩
      obtain rfl := List.mem_singleton.1 hc
      rintro rfl
      exact ha (by simpa using hb)

/-- Elements are left in the order of their first occurrence: some place of an element
is in front of all places of an element that is listed behind it. -/
theorem pairwise_eraseDups (l : List α) :
    l.eraseDups.Pairwise fun a b => ∃ front back, l = front ++ a :: back ∧ b ∉ front := by
  induction l using List.reverseRecOn with
  | nil => exact List.Pairwise.nil
  | append_singleton l x ih =>
    have hold : l.eraseDups.Pairwise fun a b =>
        ∃ front back, l ++ [x] = front ++ a :: back ∧ b ∉ front := by
      refine ih.imp ?_
      rintro a b ⟨front, back, rfl, hb⟩
      exact ⟨front, back ++ [x], by simp, hb⟩
    rw [eraseDups_concat]
    split
    · exact hold
    · next hx =>
      refine List.pairwise_append.2 ⟨hold, List.pairwise_singleton _ _, fun a ha b hb => ?_⟩
      obtain rfl := List.mem_singleton.1 hb
      obtain ⟨front, back, rfl⟩ := List.append_of_mem (List.mem_eraseDups.1 ha)
      exact ⟨front, back ++ [b], by simp, fun hmem => hx (by simp [hmem])⟩

end

theorem find?_eq_none_of_any {α : Type} {q : α → Bool} {l : List α} (h : l.any q = false) :
    l.find? q = none := by
  rw [List.find?_eq_none]
  simpa using h

/-- If at most one element has a property, the search for it finds just that one. -/
theorem find?_eq_some_iff_of_countP_le_one {α : Type} {q : α → Bool} {l : List α}
    (h : l.countP q ≤ 1) {a : α} : l.find? q = some a ↔ a ∈ l ∧ q a = true := by
  induction l with
  | nil => simp
  | cons b l ih =>
    rw [List.countP_cons] at h
    cases hb : q b with
    | false =>
      rw [List.find?_cons_of_neg (by simp [hb]), ih (by omega), List.mem_cons]
      constructor
      · rintro ⟨ha, hq⟩
        exact ⟨Or.inr ha, hq⟩
      · rintro ⟨rfl | ha, hq⟩
        · exact nomatch hb.symm.trans hq
        · exact ⟨ha, hq⟩
    | true =>
      rw [if_pos hb] at h
      have hnone : l.countP q = 0 := by omega
      rw [List.find?_cons_of_pos hb, Option.some.injEq, List.mem_cons]
      constructor
      · rintro rfl
        exact ⟨Or.inl rfl, hb⟩
      · rintro ⟨rfl | ha, hq⟩
        · rfl
        · exact absurd hq (List.countP_eq_zero.1 hnone a ha)

section

variable {α β ε : Type}

/-- Elements that give nothing may be left out. -/
theorem flatMap_filter_of_eq_nil {f : α → List β} {q : α → Bool} {l : List α}
    (h : ∀ a ∈ l, q a = false → f a = []) : (l.filter q).flatMap f = l.flatMap f := by
  induction l with
  | nil => rfl
  | cons a l ih =>
    have hrest := ih fun b hb => h b (List.mem_cons_of_mem _ hb)
    cases hq : q a with
    | true => rw [List.filter_cons_of_pos hq, List.flatMap_cons, List.flatMap_cons, hrest]
    | false =>
      rw [List.filter_cons_of_neg (by simp [hq]), List.flatMap_cons, hrest,
        h a List.mem_cons_self hq, List.nil_append]

/-- Two steps succeed if the first does and the second does with its result. -/
theorem bind_eq_ok {x : Except ε α} {f : α → Except ε β} {b : β} :
    x >>= f = .ok b ↔ ∃ a, x = .ok a ∧ f a = .ok b := by
  cases x with
  | error e => exact ⟨fun h => (nomatch h), fun ⟨_, h, _⟩ => (nomatch h)⟩
  | ok a => exact ⟨fun h => ⟨a, rfl, h⟩, fun ⟨_, h, hf⟩ => Except.ok.inj h ▸ hf⟩

/-- Two steps fail if the first does, or the second does with its result. -/
theorem bind_eq_error {x : Except ε α} {f : α → Except ε β} {e : ε} :
    x >>= f = .error e ↔ x = .error e ∨ ∃ a, x = .ok a ∧ f a = .error e := by
  cases x with
  | error e' =>
    show Except.error e' = Except.error e ↔ _
    simp
  | ok a =>
    show f a = .error e ↔ _
    simp

/-- Another name for the failure changes no success. -/
theorem mapError_eq_ok {ε' : Type} {f : ε → ε'} {x : Except ε α} {a : α} :
    x.mapError f = .ok a ↔ x = .ok a := by
  cases x with
  | error e => exact ⟨fun h => (nomatch h), fun h => nomatch h⟩
  | ok b =>
    show Except.ok b = Except.ok a ↔ Except.ok b = Except.ok a
    rw [Except.ok.injEq, Except.ok.injEq]

theorem mapM_eq_ok {f : α → Except ε β} {g : α → β} {l : List α}
    (h : ∀ a ∈ l, f a = .ok (g a)) : l.mapM f = .ok (l.map g) := by
  induction l with
  | nil => rfl
  | cons a l ih =>
    rw [List.mapM_cons, h a List.mem_cons_self, ih fun b hb => h b (List.mem_cons_of_mem _ hb)]
    rfl

theorem mapM_congr {f g : α → Except ε β} {l : List α} (h : ∀ a ∈ l, f a = g a) :
    l.mapM f = l.mapM g := by
  induction l with
  | nil => rfl
  | cons a l ih =>
    rw [List.mapM_cons, List.mapM_cons, h a List.mem_cons_self,
      ih fun b hb => h b (List.mem_cons_of_mem _ hb)]

/-- A row that fails has an element that fails so. -/
theorem exists_of_mapM_eq_error {f : α → Except ε β} {l : List α} {e : ε}
    (h : l.mapM f = .error e) : ∃ a ∈ l, f a = .error e := by
  induction l with
  | nil => exact nomatch h
  | cons a l ih =>
    rw [List.mapM_cons] at h
    rcases bind_eq_error.1 h with ha | ⟨b, -, h⟩
    · exact ⟨a, List.mem_cons_self, ha⟩
    · rcases bind_eq_error.1 h with hl | ⟨_, -, h⟩
      · obtain ⟨c, hc, he⟩ := ih hl
        exact ⟨c, List.mem_cons_of_mem _ hc, he⟩
      · exact nomatch h

/-- What a row gives, one of its elements gives. -/
theorem exists_of_mapM_eq_ok {f : α → Except ε β} {l : List α} {bs : List β}
    (h : l.mapM f = .ok bs) : ∀ b ∈ bs, ∃ a ∈ l, f a = .ok b := by
  induction l generalizing bs with
  | nil =>
    obtain rfl : [] = bs := Except.ok.inj h
    simp
  | cons a l ih =>
    rw [List.mapM_cons] at h
    obtain ⟨b, hb, h⟩ := bind_eq_ok.1 h
    obtain ⟨rest, hrest, h⟩ := bind_eq_ok.1 h
    obtain rfl : b :: rest = bs := Except.ok.inj h
    intro b' hb'
    rcases List.mem_cons.1 hb' with rfl | hb'
    · exact ⟨a, List.mem_cons_self, hb⟩
    · obtain ⟨c, hc, hfc⟩ := ih hrest b' hb'
      exact ⟨c, List.mem_cons_of_mem a hc, hfc⟩

/-- Where a row gives something, each of its elements does. -/
theorem exists_ok_of_mapM_eq_ok {f : α → Except ε β} {l : List α} {bs : List β}
    (h : l.mapM f = .ok bs) : ∀ a ∈ l, ∃ b, f a = .ok b := by
  induction l generalizing bs with
  | nil => simp
  | cons a l ih =>
    rw [List.mapM_cons] at h
    obtain ⟨b, hb, h⟩ := bind_eq_ok.1 h
    obtain ⟨rest, hrest, -⟩ := bind_eq_ok.1 h
    intro a' ha'
    rcases List.mem_cons.1 ha' with rfl | ha'
    · exact ⟨b, hb⟩
    · exact ih hrest a' ha'

theorem foldlM_eq_ok {f : β → α → Except ε β} {g : β → α → β} {l : List α}
    (h : ∀ a ∈ l, ∀ b, f b a = .ok (g b a)) (b : β) : l.foldlM f b = .ok (l.foldl g b) := by
  induction l generalizing b with
  | nil => rfl
  | cons a l ih =>
    rw [List.foldlM_cons, h a List.mem_cons_self b]
    exact ih (fun c hc => h c (List.mem_cons_of_mem _ hc)) (g b a)

/-- A fold that succeeds makes every step, each in some state. -/
theorem exists_ok_of_foldlM_eq_ok {f : β → α → Except ε β} {l : List α} {b b' : β}
    (h : l.foldlM f b = .ok b') : ∀ a ∈ l, ∃ b₁ b₂, f b₁ a = .ok b₂ := by
  induction l generalizing b with
  | nil => simp
  | cons a l ih =>
    rw [List.foldlM_cons] at h
    obtain ⟨b₁, h₁, h⟩ := bind_eq_ok.1 h
    intro a' ha'
    rcases List.mem_cons.1 ha' with rfl | ha'
    · exact ⟨b, b₁, h₁⟩
    · exact ih h a' ha'

theorem foldlM_invariant {f : β → α → Except ε β} {P : β → Prop} {l : List α}
    (hstep : ∀ a ∈ l, ∀ b b', P b → f b a = .ok b' → P b') {b b' : β} (hb : P b)
    (h : l.foldlM f b = .ok b') : P b' := by
  induction l generalizing b with
  | nil => exact Except.ok.inj h ▸ hb
  | cons a l ih =>
    rw [List.foldlM_cons] at h
    obtain ⟨b₁, h₁, h⟩ := bind_eq_ok.1 h
    exact ih (fun c hc => hstep c (List.mem_cons_of_mem _ hc))
      (hstep a List.mem_cons_self b b₁ hb h₁) h

/-- A row fails where its first failing step does. -/
theorem foldlM_eq_error {f : β → α → Except ε β} {l : List α} {b : β} {e : ε} :
    l.foldlM f b = .error e ↔
      ∃ front a back b', l = front ++ a :: back ∧ front.foldlM f b = .ok b' ∧
        f b' a = .error e := by
  induction l generalizing b with
  | nil => exact ⟨fun h => (nomatch h), fun ⟨front, a, back, _, h, _⟩ => by simp at h⟩
  | cons a l ih =>
    rw [List.foldlM_cons]
    cases ha : f b a with
    | error e' =>
      constructor
      · intro h
        exact ⟨[], a, l, b, rfl, rfl, ha.trans h⟩
      · rintro ⟨front, c, back, b', hl, hfront, hc⟩
        cases front with
        | nil =>
          obtain ⟨rfl, rfl⟩ := List.cons.inj hl
          obtain rfl := Except.ok.inj hfront
          exact ha.symm.trans hc
        | cons d front =>
          obtain ⟨rfl, rfl⟩ := List.cons.inj hl
          rw [List.foldlM_cons, ha] at hfront
          exact nomatch hfront
    | ok b₁ =>
      show l.foldlM f b₁ = .error e ↔ _
      rw [ih]
      constructor
      · rintro ⟨front, c, back, b', rfl, hfront, hc⟩
        refine ⟨a :: front, c, back, b', rfl, ?_, hc⟩
        rw [List.foldlM_cons, ha]
        exact hfront
      · rintro ⟨front, c, back, b', hl, hfront, hc⟩
        cases front with
        | nil =>
          obtain ⟨rfl, rfl⟩ := List.cons.inj hl
          obtain rfl := Except.ok.inj hfront
          exact nomatch ha.symm.trans hc
        | cons d front =>
          obtain ⟨rfl, rfl⟩ := List.cons.inj hl
          rw [List.foldlM_cons, ha] at hfront
          exact ⟨front, c, back, b', rfl, hfront, hc⟩

end

end HttpInterface
