import HttpInterface.OrderedMap

/-!
# `HttpInterface.Proofs.OrderedMap`: look-ups, and maps of lists

The facts about insertion-ordered maps that the rest of the theory stands on. A
look-up finds exactly the entries of the view (`get?_eq_some_iff`). A map whose
values are lists is read as the row of its pairs (`pairs`), key by key, and the
two ways in which such maps grow are followed there:

* `gather` adds all values of a key at once and leaves a key without values
  out. `getD_get?_gather` says which values a key ends up with.
* `push` adds one value, `pushAll` several. `mem_pairs_pushAll` says which pairs
  there are after them, and `NoneEmpty` is the invariant that no key stands
  without a value.
-/

set_option autoImplicit false

namespace HttpInterface.OrderedMap

variable {κ α : Type}

/-- The pairs of a map of lists: every key with each of its values. -/
def pairs (m : OrderedMap κ (List α)) : List (κ × α) :=
  m.entries.flatMap fun e => e.2.map fun v => (e.1, v)

theorem mem_pairs {m : OrderedMap κ (List α)} {p : κ × α} :
    p ∈ m.pairs ↔ ∃ vs, (p.1, vs) ∈ m.entries ∧ p.2 ∈ vs := by
  obtain ⟨k, v⟩ := p
  simp only [pairs, List.mem_flatMap, List.mem_map, Prod.mk.injEq, Prod.exists]
  constructor
  · rintro ⟨k', vs, he, v', hv, rfl, rfl⟩
    exact ⟨vs, he, hv⟩
  · rintro ⟨vs, he, hv⟩
    exact ⟨k, vs, he, v, hv, rfl, rfl⟩

theorem map_snd_pairs (m : OrderedMap κ (List α)) : m.pairs.map Prod.snd = m.values.flatten := by
  rw [pairs, List.map_flatMap, values, ← List.flatMap_def]
  simp [Function.comp_def]

/-- No key of a map of lists stands without a value. -/
def NoneEmpty (m : OrderedMap κ (List α)) : Prop :=
  ∀ e ∈ m.entries, e.2 ≠ []

theorem noneEmpty_empty : NoneEmpty (empty : OrderedMap κ (List α)) := by
  intro e he
  exact absurd he List.not_mem_nil

variable [DecidableEq κ]

/-! ### Look-ups -/

/-- A look-up finds the entries of the view and nothing else. No key occurs
twice, so the first entry of a key is its only one. -/
theorem get?_eq_some_iff {m : OrderedMap κ α} {k : κ} {v : α} :
    m.get? k = some v ↔ (k, v) ∈ m.entries := by
  obtain ⟨entries, hnodup⟩ := m
  show entries.lookup k = some v ↔ (k, v) ∈ entries
  induction entries with
  | nil => simp
  | cons e rest ih =>
    obtain ⟨first, old⟩ := e
    rw [List.map_cons, List.nodup_cons] at hnodup
    rw [List.lookup_cons, List.mem_cons]
    by_cases hk : k = first
    · subst hk
      have hrest : (k, v) ∉ rest := fun h => hnodup.1 (List.mem_map.2 ⟨_, h, rfl⟩)
      simp [hrest, eq_comm]
    · simp [hk, beq_false_of_ne hk, ih hnodup.2]

theorem get?_eq_none_iff {m : OrderedMap κ α} {k : κ} : m.get? k = none ↔ k ∉ m.keys := by
  show m.entries.lookup k = none ↔ k ∉ m.entries.map Prod.fst
  rw [List.lookup_eq_none_iff]
  constructor
  · intro h hk
    obtain ⟨e, he, rfl⟩ := List.mem_map.1 hk
    simpa using h e he
  · intro h e he
    exact bne_iff_ne.2 fun hk => h (hk ▸ List.mem_map.2 ⟨e, he, rfl⟩)

theorem contains_iff {m : OrderedMap κ α} {k : κ} : m.contains k = true ↔ k ∈ m.keys := by
  show m.keys.contains k = true ↔ k ∈ m.keys
  exact List.contains_iff_mem

theorem isSome_get? (m : OrderedMap κ α) (k : κ) : (m.get? k).isSome = m.contains k := by
  cases hk : m.get? k with
  | none => simpa using mt contains_iff.1 (get?_eq_none_iff.1 hk)
  | some v =>
    have hmem : k ∈ m.keys := Decidable.byContradiction fun hno =>
      nomatch hk.symm.trans (get?_eq_none_iff.2 hno)
    exact (contains_iff.2 hmem).symm

/-- A key with an entry has a value. -/
theorem exists_get?_of_mem_keys {m : OrderedMap κ α} {k : κ} (h : k ∈ m.keys) :
    ∃ v, m.get? k = some v := by
  cases hk : m.get? k with
  | some v => exact ⟨v, rfl⟩
  | none => exact absurd h (get?_eq_none_iff.1 hk)

theorem get?_mapValues {β : Type} (f : α → β) (m : OrderedMap κ α) (k : κ) :
    (m.mapValues f).get? k = (m.get? k).map f := by
  show (m.entries.map fun e => (e.1, f e.2)).lookup k = (m.entries.lookup k).map f
  induction m.entries with
  | nil => rfl
  | cons e rest ih =>
    obtain ⟨first, v⟩ := e
    rw [List.map_cons, List.lookup_cons, List.lookup_cons, ih]
    cases k == first <;> rfl

/-! ### Single entries -/

/-- After a key is set, it has its one entry and the other entries are as they
were. -/
theorem mem_entries_insert {m : OrderedMap κ α} {k : κ} {v : α} {e : κ × α} :
    e ∈ (m.insert k v).entries ↔ e = (k, v) ∨ (e.1 ≠ k ∧ e ∈ m.entries) := by
  obtain ⟨l, w⟩ := e
  rw [← get?_eq_some_iff, get?_insert, Prod.mk.injEq]
  by_cases h : l = k
  · simp [h, eq_comm]
  · simp [h, get?_eq_some_iff]

theorem mem_entries_erase {m : OrderedMap κ α} {k : κ} {e : κ × α} :
    e ∈ (m.erase k).entries ↔ e.1 ≠ k ∧ e ∈ m.entries := by
  rw [entries_erase, List.mem_filter]
  simp [and_comm]

theorem get?_erase_self (m : OrderedMap κ α) (k : κ) : (m.erase k).get? k = none := by
  rw [get?_eq_none_iff]
  intro h
  obtain ⟨e, he, rfl⟩ := List.mem_map.1 h
  exact (mem_entries_erase.1 he).1 rfl

/-- Removing a key leaves the other keys as they are. -/
theorem get?_erase_of_ne (m : OrderedMap κ α) {k l : κ} (h : l ≠ k) :
    (m.erase k).get? l = m.get? l := by
  refine Option.ext fun v => ?_
  rw [get?_eq_some_iff, get?_eq_some_iff, mem_entries_erase]
  exact and_iff_right h

/-- A new key goes to the end. -/
theorem entries_insert_of_not_mem {m : OrderedMap κ α} {k : κ} (h : k ∉ m.keys) (v : α) :
    (m.insert k v).entries = m.entries ++ [(k, v)] := by
  rw [entries_insert]
  -- On the entries alone, since the map carries a proof about them.
  have key : ∀ entries : List (κ × α), k ∉ entries.map Prod.fst →
      setEntry k v entries = entries ++ [(k, v)] := by
    intro entries hk
    induction entries with
    | nil => rfl
    | cons e rest ih =>
      simp only [List.map_cons, List.mem_cons, not_or] at hk
      rw [setEntry, if_neg (Ne.symm hk.1), ih hk.2, List.cons_append]
  exact key m.entries h

/-- Setting a key changes nothing that is made of the entries one by one, if nothing is made of
the entry of this key before and after. -/
theorem filterMap_entries_insert {β : Type} {f : κ × α → Option β} {m : OrderedMap κ α} {k : κ}
    {v : α} (hnew : f (k, v) = none) (hold : ∀ w, m.get? k = some w → f (k, w) = none) :
    (m.insert k v).entries.filterMap f = m.entries.filterMap f := by
  -- On the entries alone, since the map carries a proof about them.
  have key : ∀ entries : List (κ × α), (∀ w, (k, w) ∈ entries → f (k, w) = none) →
      (setEntry k v entries).filterMap f = entries.filterMap f := by
    intro entries hentries
    induction entries with
    | nil => simp [setEntry, hnew]
    | cons e rest ih =>
      obtain ⟨l, w⟩ := e
      unfold setEntry
      split
      · next heq =>
        obtain rfl : l = k := heq
        rw [List.filterMap_cons_none hnew, List.filterMap_cons_none (hentries w (by simp))]
      · have hrest := ih fun w hw => hentries w (List.mem_cons_of_mem _ hw)
        simp only [List.filterMap_cons, hrest]
  exact key m.entries fun w hw => hold w (get?_eq_some_iff.2 hw)

/-- Setting a key that is left out changes nothing. -/
theorem filter_entries_insert {q : κ → Bool} {k : κ} (hk : q k = false) (m : OrderedMap κ α)
    (v : α) : ((m.insert k v).entries.filter fun e => q e.1) = m.entries.filter fun e => q e.1 := by
  rw [← List.filterMap_eq_filter]
  exact filterMap_entries_insert (by simp [hk]) fun w _ => by simp [hk]

theorem ofList_concat (entries : List (κ × α)) (e : κ × α) :
    ofList (entries ++ [e]) = (ofList entries).insert e.1 e.2 := by
  rw [ofList, List.foldl_append]
  rfl

/-- Entries with different keys build the map that has just them. -/
theorem entries_ofList {entries : List (κ × α)} (h : (entries.map Prod.fst).Nodup) :
    (ofList entries).entries = entries := by
  -- Generalised over the map that the entries are added to.
  have key : ∀ (rest : List (κ × α)) (m : OrderedMap κ α),
      ((m.entries ++ rest).map Prod.fst).Nodup →
      (rest.foldl (fun m e => m.insert e.1 e.2) m).entries = m.entries ++ rest := by
    intro rest
    induction rest with
    | nil => intro m _; simp
    | cons e rest ih =>
      intro m hm
      have hnew : e.1 ∉ m.keys := by
        intro hk
        rw [List.map_append, List.nodup_append] at hm
        exact hm.2.2 e.1 hk e.1 (by simp) rfl
      have hentries : (m.insert e.1 e.2).entries = m.entries ++ [e] :=
        entries_insert_of_not_mem hnew e.2
      rw [List.foldl_cons, ih (m.insert e.1 e.2) (by rw [hentries]; simpa using hm), hentries]
      simp
  exact key entries empty (by simpa [empty] using h)

/-- The map that entries build has no other entry. -/
theorem mem_of_mem_entries_ofList {entries : List (κ × α)} {e : κ × α}
    (h : e ∈ (ofList entries).entries) : e ∈ entries := by
  -- Generalised over the map that the entries are added to.
  have key : ∀ (rest : List (κ × α)) (m : OrderedMap κ α),
      e ∈ (rest.foldl (fun m e => m.insert e.1 e.2) m).entries → e ∈ m.entries ∨ e ∈ rest := by
    intro rest
    induction rest with
    | nil => exact fun m h => Or.inl h
    | cons first rest ih =>
      intro m h
      rcases ih (m.insert first.1 first.2) h with h | h
      · rcases mem_entries_insert.1 h with rfl | ⟨-, h⟩
        · exact Or.inr List.mem_cons_self
        · exact Or.inl h
      · exact Or.inr (List.mem_cons_of_mem first h)
  exact (key entries empty h).resolve_left List.not_mem_nil

/-- The map that entries build has their keys. -/
theorem mem_keys_ofList {entries : List (κ × α)} {k : κ} :
    k ∈ (ofList entries).keys ↔ k ∈ entries.map Prod.fst := by
  -- Generalised over the map that the entries are added to.
  have key : ∀ (entries : List (κ × α)) (m : OrderedMap κ α),
      k ∈ (entries.foldl (fun m e => m.insert e.1 e.2) m).keys ↔
        k ∈ m.keys ∨ k ∈ entries.map Prod.fst := by
    intro entries
    induction entries with
    | nil => simp
    | cons e rest ih =>
      intro m
      have hinsert : k ∈ (m.insert e.1 e.2).keys ↔ k ∈ m.keys ∨ k = e.1 := by
        rw [keys_insert]
        split
        · next he =>
          refine ⟨Or.inl, fun h => h.elim id ?_⟩
          rintro rfl
          exact he
        · rw [List.mem_append, List.mem_singleton]
      rw [List.foldl_cons, ih, hinsert, List.map_cons, List.mem_cons, or_assoc]
  rw [ofList, key]
  simp [keys, empty]

/-! ### Maps of lists -/

/-- Adding one value adds one pair. -/
theorem mem_pairs_push {m : OrderedMap κ (List α)} {k : κ} {v : α} {p : κ × α} :
    p ∈ (m.push k v).pairs ↔ p = (k, v) ∨ p ∈ m.pairs := by
  obtain ⟨l, w⟩ := p
  simp only [mem_pairs, push, extend, mem_entries_insert, Prod.mk.injEq]
  by_cases h : l = k
  · subst h
    cases hm : m.get? l with
    | none =>
      have hno : ∀ vs, (l, vs) ∉ m.entries := by
        intro vs he
        rw [get?_eq_some_iff.2 he] at hm
        exact nomatch hm
      simp [hno]
    | some old =>
      have hold : ∀ vs, (l, vs) ∈ m.entries ↔ vs = old := by
        intro vs
        rw [← get?_eq_some_iff, hm, Option.some.injEq, eq_comm]
      simp [hold, or_comm]
  · simp [h]

theorem mem_pairs_insert {m : OrderedMap κ (List α)} {k : κ} {vs : List α} {p : κ × α} :
    p ∈ (m.insert k vs).pairs ↔ (p.1 = k ∧ p.2 ∈ vs) ∨ (p.1 ≠ k ∧ p ∈ m.pairs) := by
  simp only [mem_pairs, mem_entries_insert, Prod.mk.injEq]
  constructor
  · rintro ⟨ws, ⟨hk, rfl⟩ | ⟨hk, he⟩, hv⟩
    · exact Or.inl ⟨hk, hv⟩
    · exact Or.inr ⟨hk, ws, he, hv⟩
  · rintro (⟨hk, hv⟩ | ⟨hk, ws, he, hv⟩)
    · exact ⟨vs, Or.inl ⟨hk, rfl⟩, hv⟩
    · exact ⟨ws, Or.inr ⟨hk, he⟩, hv⟩

theorem mem_pairs_erase {m : OrderedMap κ (List α)} {k : κ} {p : κ × α} :
    p ∈ (m.erase k).pairs ↔ p.1 ≠ k ∧ p ∈ m.pairs := by
  simp only [mem_pairs, mem_entries_erase]
  constructor
  · rintro ⟨vs, ⟨hk, he⟩, hv⟩
    exact ⟨hk, vs, he, hv⟩
  · rintro ⟨hk, vs, he, hv⟩
    exact ⟨vs, ⟨hk, he⟩, hv⟩

/-- The pairs of one key are its values. -/
theorem filter_pairs (m : OrderedMap κ (List α)) (k : κ) :
    (m.pairs.filter fun p => p.1 = k) = ((m.get? k).getD []).map fun v => (k, v) := by
  -- On the entries alone, since the map carries a proof about them.
  have key : ∀ entries : List (κ × List α), (entries.map Prod.fst).Nodup →
      ((entries.flatMap fun e => e.2.map fun v => (e.1, v)).filter fun p => p.1 = k) =
        ((entries.lookup k).getD []).map fun v => (k, v) := by
    intro entries hnodup
    induction entries with
    | nil => rfl
    | cons e rest ih =>
      obtain ⟨l, vs⟩ := e
      rw [List.map_cons, List.nodup_cons] at hnodup
      rw [List.flatMap_cons, List.filter_append, ih hnodup.2, List.lookup_cons]
      by_cases hk : k = l
      · subst hk
        have hnone : rest.lookup k = none := by
          rw [List.lookup_eq_none_iff]
          intro e he
          exact bne_iff_ne.2 fun hk => hnodup.1 (hk ▸ List.mem_map.2 ⟨e, he, rfl⟩)
        simp [hnone]
      · simp [beq_false_of_ne hk, Ne.symm hk]
  exact key m.entries m.nodup_keys

theorem noneEmpty_insert {m : OrderedMap κ (List α)} (h : m.NoneEmpty) (k : κ) {vs : List α}
    (hvs : vs ≠ []) : (m.insert k vs).NoneEmpty := by
  intro e he
  rcases mem_entries_insert.1 he with rfl | ⟨-, hm⟩
  · exact hvs
  · exact h e hm

theorem noneEmpty_push {m : OrderedMap κ (List α)} (h : m.NoneEmpty) (k : κ) (v : α) :
    (m.push k v).NoneEmpty :=
  noneEmpty_insert h k (by simp)

theorem noneEmpty_erase {m : OrderedMap κ (List α)} (h : m.NoneEmpty) (k : κ) :
    (m.erase k).NoneEmpty :=
  fun e he => h e (mem_entries_erase.1 he).2

/-- Adds single values one after the other. -/
def pushAll (m : OrderedMap κ (List α)) (ps : List (κ × α)) : OrderedMap κ (List α) :=
  ps.foldl (fun m p => m.push p.1 p.2) m

theorem mem_pairs_pushAll {m : OrderedMap κ (List α)} {ps : List (κ × α)} {p : κ × α} :
    p ∈ (m.pushAll ps).pairs ↔ p ∈ m.pairs ∨ p ∈ ps := by
  induction ps generalizing m with
  | nil => simp [pushAll]
  | cons q ps ih =>
    rw [pushAll, List.foldl_cons, ← pushAll, ih, mem_pairs_push, List.mem_cons,
      or_comm (a := p = q), or_assoc]

theorem noneEmpty_pushAll {m : OrderedMap κ (List α)} (h : m.NoneEmpty) (ps : List (κ × α)) :
    (m.pushAll ps).NoneEmpty := by
  induction ps generalizing m with
  | nil => exact h
  | cons p ps ih => exact ih (noneEmpty_push h p.1 p.2)

/-- Adds the values of some keys, key by key. A key without values is left
out. -/
def gather (m : OrderedMap κ (List α)) (rows : List (κ × List α)) : OrderedMap κ (List α) :=
  rows.foldl (fun m row => if row.2.isEmpty then m else m.extend row.1 row.2) m

/-- The values of a key after one row. -/
theorem getD_get?_gather_step (m : OrderedMap κ (List α)) (row : κ × List α) (k : κ) :
    ((if row.2.isEmpty then m else m.extend row.1 row.2).get? k).getD [] =
      (m.get? k).getD [] ++ if row.1 = k then row.2 else [] := by
  by_cases hempty : row.2 = []
  · simp [hempty]
  · rw [if_neg (by simpa using hempty), extend, get?_insert]
    by_cases hk : k = row.1
    · simp [hk]
    · simp [hk, Ne.symm hk]

/-- A key ends up with the values that it had and, behind them, those of all its
rows in order. -/
theorem getD_get?_gather (m : OrderedMap κ (List α)) (rows : List (κ × List α)) (k : κ) :
    ((m.gather rows).get? k).getD [] =
      (m.get? k).getD [] ++ (rows.filter fun row => row.1 = k).flatMap Prod.snd := by
  induction rows generalizing m with
  | nil => simp [gather]
  | cons row rest ih =>
    rw [gather, List.foldl_cons, ← gather, ih, getD_get?_gather_step]
    by_cases hk : row.1 = k
    · simp [hk]
    · simp [hk]

/-- Every pair that rows bring into the empty map is a value of one of them. -/
theorem exists_row_of_mem_pairs_gather {rows : List (κ × List α)} {p : κ × α}
    (h : p ∈ (gather empty rows).pairs) : ∃ row ∈ rows, row.1 = p.1 ∧ p.2 ∈ row.2 := by
  obtain ⟨vs, he, hv⟩ := mem_pairs.1 h
  have hvs := getD_get?_gather empty rows p.1
  rw [get?_eq_some_iff.2 he] at hvs
  have hmem : p.2 ∈ (rows.filter fun row => row.1 = p.1).flatMap Prod.snd := by
    rw [Option.getD_some, show (empty : OrderedMap κ (List α)).get? p.1 = none from rfl,
      Option.getD_none, List.nil_append] at hvs
    exact hvs ▸ hv
  obtain ⟨row, hrow, hv'⟩ := List.mem_flatMap.1 hmem
  obtain ⟨hrow, hk⟩ := List.mem_filter.1 hrow
  exact ⟨row, hrow, by simpa using hk, hv'⟩

end HttpInterface.OrderedMap
