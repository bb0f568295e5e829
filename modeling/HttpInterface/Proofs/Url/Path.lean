import HttpInterface.Proofs.Url.Escape
import HttpInterface.Proofs.Url.Parts

/-!
# `HttpInterface.Proofs.Url.Path`: the components of a path

A path without dot components is in normal form but for its escapes (`resolveDots_eq`), and one
with a dot component loses a component at least (`length_resolveDots_lt`): each component adds
one to those resolved so far, a dot component adds none. So the components of a path are kept
exactly if none of them is made of dots.
-/

set_option autoImplicit false

namespace HttpInterface.Url

/-! ### Dot components -/

theorem isDots_iff {component : List Char} :
    isDots component = true ↔ component = ['.'] ∨ component = ['.', '.'] := by
  constructor
  · intro h
    unfold isDots at h
    split at h
    · exact Or.inl rfl
    · exact Or.inr rfl
    · exact nomatch h
  · rintro (rfl | rfl)
    · rfl
    · rfl

/-- A dot component adds nothing to what is resolved. -/
theorem resolveStep_of_isDots {component : List Char} (h : isDots component = true)
    (resolved : List (List Char)) : resolveStep resolved component <:+ resolved := by
  rcases isDots_iff.1 h with rfl | rfl
  · exact List.suffix_refl _
  · unfold resolveStep
    rw [if_neg (by decide), if_pos rfl]
    split
    · exact List.suffix_refl _
    · exact List.suffix_refl _
    · exact List.suffix_cons _ _

theorem resolveStep_of_not_isDots {component : List Char} (h : isDots component = false)
    (resolved : List (List Char)) : resolveStep resolved component = component :: resolved := by
  have hne : ¬(component = ['.'] ∨ component = ['.', '.']) := by
    rw [← isDots_iff, h]
    exact Bool.false_ne_true
  rw [not_or] at hne
  unfold resolveStep
  rw [if_neg hne.1, if_neg hne.2]

/-- What is resolved are components of the path, at most those that are not made of dots. -/
theorem foldl_resolveStep (components resolved : List (List Char)) :
    (components.foldl resolveStep resolved).length ≤
        resolved.length + components.countP (!isDots ·) ∧
      ∀ p ∈ components.foldl resolveStep resolved, p ∈ resolved ∨ p ∈ components := by
  -- The stack that the fold starts from is any: each step hands on another one.
  induction components generalizing resolved with
  | nil => exact ⟨Nat.le_refl _, fun p hp => Or.inl hp⟩
  | cons c components ih =>
    obtain ⟨hlength, hmem⟩ := ih (resolveStep resolved c)
    rw [List.foldl_cons]
    cases hc : isDots c with
    | true =>
      have hsuffix := resolveStep_of_isDots hc resolved
      rw [List.countP_cons_of_neg (by simp [hc])]
      refine ⟨Nat.le_trans hlength (Nat.add_le_add_right hsuffix.length_le _), fun p hp => ?_⟩
      exact (hmem p hp).imp (fun h => hsuffix.subset h) (List.mem_cons_of_mem _)
    | false =>
      rw [resolveStep_of_not_isDots hc] at hlength hmem ⊢
      rw [List.countP_cons_of_pos (by simp [hc])]
      rw [List.length_cons] at hlength
      refine ⟨by omega, fun p hp => ?_⟩
      rcases hmem p hp with h | h
      · rcases List.mem_cons.1 h with rfl | h
        · exact Or.inr List.mem_cons_self
        · exact Or.inl h
      · exact Or.inr (List.mem_cons_of_mem _ h)

theorem resolveDots_eq {path : List Char} (h : ∀ c ∈ Text.splitOn '/' path, isDots c = false) :
    resolveDots path = path := by
  rw [resolveDots]
  exact if_neg (by simpa using h)

/-- A path with a dot component loses a component, unless there is just the one. -/
theorem length_resolveDots_lt {path c : List Char} (hc : c ∈ Text.splitOn '/' path)
    (hdots : isDots c = true) (hlength : 1 < (Text.splitOn '/' path).length) :
    (Text.splitOn '/' (resolveDots path)).length < (Text.splitOn '/' path).length := by
  obtain ⟨hle, hmem⟩ := foldl_resolveStep (Text.splitOn '/' path) []
  have hcount : (Text.splitOn '/' path).countP (!isDots ·) < (Text.splitOn '/' path).length := by
    refine Nat.lt_of_le_of_ne List.countP_le_length fun heq => ?_
    rw [List.countP_eq_length] at heq
    simpa [hdots] using heq c hc
  rw [resolveDots]
  simp only [if_pos (List.any_eq_true.2 ⟨c, hc, hdots⟩)]
  -- If nothing is left, the empty path still has one component.
  cases hresolved : (Text.splitOn '/' path).foldl resolveStep [] with
  | nil => exact hlength
  | cons p rest =>
    rw [hresolved] at hle hmem
    rw [Text.splitOn_joinWith (by simp), List.length_reverse]
    · rw [List.length_nil, Nat.zero_add] at hle
      exact Nat.lt_of_le_of_lt hle hcount
    · intro q hq
      have hq := (hmem q (List.mem_reverse.1 hq)).resolve_left List.not_mem_nil
      exact Text.not_mem_of_mem_splitOn hq

/-! ### A path behind another -/

/-- Without dot components the components of both are kept. -/
theorem splitOn_escape_resolveDots {front url : List Char}
    (hfront : ∀ c ∈ Text.splitOn '/' front, isDots c = false)
    (hurl : ∀ c ∈ Text.splitOn '/' url, isDots c = false) :
    Text.splitOn '/' (escape unsafeInPath (resolveDots (front ++ '/' :: url))) =
      (Text.splitOn '/' front).map (escape unsafeInPath) ++
        (Text.splitOn '/' url).map (escape unsafeInPath) := by
  have hnone : ∀ c ∈ Text.splitOn '/' (front ++ '/' :: url), isDots c = false := by
    intro c hc
    rw [Text.splitOn_append_cons] at hc
    exact (List.mem_append.1 hc).elim (hfront c) (hurl c)
  rw [resolveDots_eq hnone, splitOn_escape, Text.splitOn_append_cons, List.map_append]

/-- With a dot component there are fewer components. -/
theorem length_splitOn_escape_resolveDots_lt (front : List Char) {url c : List Char}
    (hc : c ∈ Text.splitOn '/' url) (hdots : isDots c = true) :
    (Text.splitOn '/' (escape unsafeInPath (resolveDots (front ++ '/' :: url)))).length <
      (Text.splitOn '/' front).length + (Text.splitOn '/' url).length := by
  have hmem : c ∈ Text.splitOn '/' (front ++ '/' :: url) := by
    rw [Text.splitOn_append_cons]
    exact List.mem_append_right _ hc
  have hfront : 0 < (Text.splitOn '/' front).length :=
    List.length_pos_iff.2 (Text.splitOn_ne_nil '/' front)
  have hurl : 0 < (Text.splitOn '/' url).length := List.length_pos_of_mem hc
  have hlength : (Text.splitOn '/' (front ++ '/' :: url)).length =
      (Text.splitOn '/' front).length + (Text.splitOn '/' url).length := by
    rw [Text.splitOn_append_cons, List.length_append]
  rw [splitOn_escape, List.length_map, ← hlength]
  exact length_resolveDots_lt hmem hdots (by omega)

/-! ### Slashes at the end -/

/-- A component that is left without the slashes at the end was there before. -/
theorem mem_splitOn_of_mem_trimmed {path c : List Char} (h : c ∈ Text.splitOn '/' (trimmed path)) :
    c ∈ Text.splitOn '/' path := by
  induction path using List.reverseRecOn with
  | nil => exact h
  | append_singleton path d ih =>
    rw [trimmed, List.rdropWhile_concat] at h
    split at h
    · next hd =>
      rw [beq_iff_eq] at hd
      rw [hd, Text.splitOn_append_cons]
      exact List.mem_append_left _ (ih h)
    · exact h

/-- A component that goes with the slashes at the end is empty. -/
theorem mem_splitOn_trimmed {path c : List Char} (h : c ∈ Text.splitOn '/' path) :
    c ∈ Text.splitOn '/' (trimmed path) ∨ c = [] := by
  induction path using List.reverseRecOn with
  | nil => exact Or.inl h
  | append_singleton path d ih =>
    rw [trimmed, List.rdropWhile_concat]
    split
    · next hd =>
      rw [beq_iff_eq] at hd
      rw [hd, Text.splitOn_append_cons] at h
      rcases List.mem_append.1 h with h | h
      · exact ih h
      · exact Or.inr (List.mem_singleton.1 h)
    · exact Or.inl h

/-- Slashes are not escaped in a part that may hold them. -/
theorem trimmed_escape {forbidden : List Char} (hallowed : '/' ∉ forbidden) (part : List Char) :
    trimmed (escape forbidden part) = escape forbidden (trimmed part) := by
  have hslash : escapeChar forbidden '/' = ['/'] := escapeChar_of_printable (by decide) hallowed
  induction part using List.reverseRecOn with
  | nil => rfl
  | append_singleton part d ih =>
    rw [escape, List.flatMap_append, List.flatMap_singleton, ← escape]
    by_cases hd : d = '/'
    · rw [hd, hslash, trimmed, trimmed, List.rdropWhile_concat_pos _ _ _ (by simp),
        List.rdropWhile_concat_pos _ _ _ (by simp)]
      exact ih
    · -- What is written for another character ends in no slash, and it is not empty.
      have hlast : ∀ hne : escape forbidden part ++ escapeChar forbidden d ≠ [],
          (escape forbidden part ++ escapeChar forbidden d).getLast hne ≠ '/' := by
        intro hne heq
        have hwritten := escapeChar_ne_nil forbidden d
        rw [List.getLast_append_of_ne_nil hne hwritten] at heq
        exact not_mem_escapeChar (by decide) hd (heq ▸ List.getLast_mem hwritten)
      rw [trimmed, trimmed, List.rdropWhile_concat_neg _ _ _ (by simpa using hd),
        List.rdropWhile_eq_self_iff.2 fun hne => by simpa using hlast hne, escape, escape,
        List.flatMap_append, List.flatMap_singleton]

/-! ### The path of a URL -/

/-- The path of a URL with an authority has no dot components. -/
theorem Anchored.toList_path {s a rest : List Char} {text : String} {u : Url}
    (h : Anchored s a rest text.toList) (hparse : parse text = .ok u) :
    u.path.toList = escape unsafeInPath (resolveDots (behind rest).1) := by
  have hof := isOf_of_parse hparse
  rw [h.split_eq] at hof
  rw [hof.path h.scheme_ne, String.toList_ofList]

/-- A text is a URL that says where it leads on its own, without query, fragment and dot
components. -/
structure IsPlain (u : Url) (text : String) : Prop where
  parse : parse text = .ok u
  absolute : u.isAbsolute = true
  query : u.query = none
  fragment : u.fragment = none
  components : ∀ c ∈ Text.splitOn '/' (split text.toList).path, isDots c = false

/-- Behind the authority of a plain URL there is its path, in normal form but for its escapes. -/
theorem IsPlain.exists_rest {u : Url} {text : String} (h : u.IsPlain text) :
    ∃ s a rest, Anchored s a rest text.toList ∧ '?' ∉ rest ∧ '#' ∉ rest ∧
      (∀ c ∈ Text.splitOn '/' rest, isDots c = false) ∧
      u.path.toList = escape unsafeInPath rest := by
  obtain ⟨s, a, rest, hanchored⟩ := anchored_of_isAbsolute h.parse h.absolute
  have hof := isOf_of_parse h.parse
  have hdots := h.components
  rw [hanchored.split_eq] at hof hdots
  obtain ⟨hbehind, hmark, hhash⟩ :=
    behind_of_none (Option.map_eq_none_iff.1 (hof.query.symm.trans h.query))
      (Option.map_eq_none_iff.1 (hof.fragment.symm.trans h.fragment))
  have hpath := hanchored.toList_path h.parse
  simp only [hbehind] at hpath hdots
  rw [resolveDots_eq hdots] at hpath
  exact ⟨s, a, rest, hanchored, hmark, hhash, hdots, hpath⟩

end HttpInterface.Url
