import HttpInterface.Proofs.List
import HttpInterface.Proofs.OrderedMap
import Mathlib.Data.List.Induction

/-!
# `HttpInterface.Proofs.OrderedMap.Grouping`: pairs grouped by their keys

Pairs that are pushed one after the other come out grouped: every key once, in the
order of first appearance, with its values in their order (`entries_pushAll`).
Gathering whole rows is pushing the pairs of the rows (`gather_eq_pushAll`).

Grouping moves a pair only across pairs with another key. So it moves nothing where
equal keys stand next to each other: `pairs_pushAll` gives the pushed pairs back as
they were. `Adjacent` says that keys stand so.

`Groups` says of a map that it holds some rows, key by key. It is what gathering makes
(`groups_gather`).
-/

set_option autoImplicit false

namespace HttpInterface

/-- Equal elements of the list stand next to each other: nothing else comes between
two of them. -/
def Adjacent {α : Type} (l : List α) : Prop :=
  ∀ x y, [x, y, x].Sublist l → y = x

namespace Adjacent

variable {α : Type} {a b : α} {l : List α}

theorem tail (h : Adjacent (a :: l)) : Adjacent l :=
  fun x y hxy => h x y (hxy.trans (List.sublist_cons_self a l))

/-- An element that is not repeated at once is not repeated later. -/
theorem not_mem_of_ne (h : Adjacent (a :: b :: l)) (hne : b ≠ a) : a ∉ b :: l := by
  intro hmem
  rcases List.mem_cons.1 hmem with rfl | hmem
  · exact hne rfl
  · exact hne (h a b (((List.singleton_sublist.2 hmem).cons_cons b).cons_cons a))

instance [DecidableEq α] : Decidable (Adjacent l) :=
  decidable_of_iff (∀ x ∈ l, ∀ y ∈ l, [x, y, x].Sublist l → y = x) <| by
    constructor
    · intro h x y hxy
      exact h x (hxy.subset (by simp)) y (hxy.subset (by simp)) hxy
    · intro h x _ y _
      exact h x y

end Adjacent

/-- The pairs grouped by their keys: every key once, in the order of first appearance,
with its values in their order. -/
def grouped {κ α : Type} [DecidableEq κ] (ps : List (κ × α)) : List (κ × List α) :=
  (ps.map Prod.fst).eraseDups.map fun k => (k, (ps.filter fun p => p.1 = k).map Prod.snd)

/-- An element that is repeated at once counts once. -/
theorem eraseDups_cons_cons_self {α : Type} [DecidableEq α] (a : α) (l : List α) :
    (a :: a :: l).eraseDups = (a :: l).eraseDups := by
  rw [List.eraseDups_cons, List.eraseDups_cons, List.filter_cons_of_neg (by simp)]

/-- A new element comes before the others, and takes none of them away. -/
theorem eraseDups_cons_of_not_mem {α : Type} [DecidableEq α] {a : α} {l : List α} (h : a ∉ l) :
    (a :: l).eraseDups = a :: l.eraseDups := by
  have hfilter : (l.filter fun b => !b == a) = l := by
    rw [List.filter_eq_self]
    intro b hb
    have hne : b ≠ a := fun hba => h (hba ▸ hb)
    simpa using hne
  rw [List.eraseDups_cons, hfilter]

/-- What is left out counts in no order. -/
theorem filter_eraseDups {α : Type} [DecidableEq α] (q : α → Bool) (l : List α) :
    l.eraseDups.filter q = (l.filter q).eraseDups := by
  induction l using List.reverseRecOn with
  | nil => rfl
  | append_singleton l a ih =>
    rw [eraseDups_concat, List.filter_append]
    cases hq : q a with
    | false =>
      have hnone : [a].filter q = [] := by simp [hq]
      rw [hnone, List.append_nil, ← ih]
      split
      · rfl
      · rw [List.filter_append, hnone, List.append_nil]
    | true =>
      have hone : [a].filter q = [a] := by simp [hq]
      have hmem : (l.filter q).contains a = l.contains a := by simp [hq]
      rw [hone, eraseDups_concat, hmem, ← ih]
      split
      · rfl
      · rw [List.filter_append, hone]

/-- The groups of some keys are the groups of the pairs with these keys. -/
theorem filter_grouped {κ α : Type} [DecidableEq κ] (q : κ → Bool) (ps : List (κ × α)) :
    ((grouped ps).filter fun e => q e.1) = grouped (ps.filter fun p => q p.1) := by
  have hkeys : (ps.map Prod.fst).eraseDups.filter q =
      ((ps.filter fun p => q p.1).map Prod.fst).eraseDups := by
    rw [filter_eraseDups, List.filter_map]
    rfl
  rw [grouped, grouped, ← hkeys, List.filter_map]
  refine List.map_congr_left fun k hk => ?_
  have hq : q k = true := (List.mem_filter.1 hk).2
  have hsame : (ps.filter fun p => p.1 = k) =
      (ps.filter fun p => q p.1).filter fun p => p.1 = k := by
    rw [List.filter_filter]
    refine List.filter_congr fun p _ => ?_
    by_cases hp : p.1 = k
    · simp [hp, hq]
    · simp [hp]
  rw [hsame]

/-- A pair in front is in no group of another key. -/
theorem flatMap_filter_cons {κ α : Type} [DecidableEq κ] {p : κ × α} {ks : List κ}
    (h : p.1 ∉ ks) (ps : List (κ × α)) :
    (ks.flatMap fun k => (p :: ps).filter fun q => q.1 = k) =
      ks.flatMap fun k => ps.filter fun q => q.1 = k := by
  rw [List.flatMap_def, List.flatMap_def]
  refine congrArg List.flatten (List.map_congr_left fun k hk => ?_)
  have hne : p.1 ≠ k := fun hkey => h (hkey ▸ hk)
  rw [List.filter_cons_of_neg (by simpa using hne)]

/-- Where equal keys stand next to each other, the groups in their order are the
pairs. -/
theorem flatMap_eraseDups_filter {κ α : Type} [DecidableEq κ] {ps : List (κ × α)}
    (h : Adjacent (ps.map Prod.fst)) :
    ((ps.map Prod.fst).eraseDups.flatMap fun k => ps.filter fun p => p.1 = k) = ps := by
  induction ps with
  | nil => rfl
  | cons p rest ih =>
    specialize ih h.tail
    rw [List.map_cons]
    by_cases hmem : p.1 ∈ rest.map Prod.fst
    · -- The key is that of the next pair, so `p` joins the first group.
      cases rest with
      | nil => exact absurd hmem List.not_mem_nil
      | cons q rest =>
        have hq : q.1 = p.1 := Decidable.byContradiction fun hne => h.not_mem_of_ne hne hmem
        rw [List.map_cons, hq, List.eraseDups_cons, List.flatMap_cons] at ih
        rw [List.map_cons, hq, eraseDups_cons_cons_self, List.eraseDups_cons, List.flatMap_cons,
          List.filter_cons_of_pos (by simp), flatMap_filter_cons (by simp [List.mem_eraseDups]),
          List.cons_append, ih]
    · -- The key is new, so `p` is a group of its own.
      have hself : ((p :: rest).filter fun q => q.1 = p.1) = [p] := by
        rw [List.filter_cons_of_pos (by simp), List.filter_eq_nil_iff.2]
        intro q hq hkey
        exact hmem (List.mem_map.2 ⟨q, hq, by simpa using hkey⟩)
      rw [eraseDups_cons_of_not_mem hmem, List.flatMap_cons, hself,
        flatMap_filter_cons (mt List.mem_eraseDups.1 hmem), ih, List.singleton_append]

namespace OrderedMap

variable {κ α : Type} [DecidableEq κ]

/-- A map is its keys in their order, each with what is found for it. -/
theorem entries_eq_map_keys (m : OrderedMap κ α) (default : α) :
    m.entries = m.keys.map fun k => (k, (m.get? k).getD default) := by
  rw [keys, List.map_map]
  refine (List.map_id m.entries).symm.trans (List.map_congr_left fun e he => ?_)
  rw [Function.comp_apply, get?_eq_some_iff.2 he]
  rfl

/-! ### One key -/

/-- Of two values for one key the second stays. -/
theorem insert_insert (m : OrderedMap κ α) (k : κ) (v w : α) :
    (m.insert k v).insert k w = m.insert k w := by
  -- On the entries alone, since the map carries a proof about them.
  have key : ∀ entries : List (κ × α),
      setEntry k w (setEntry k v entries) = setEntry k w entries := by
    intro entries
    induction entries with
    | nil => simp [setEntry]
    | cons e rest ih =>
      by_cases he : e.1 = k
      · simp [setEntry, he]
      · simp [setEntry, he, ih]
  exact OrderedMap.ext (key m.entries)

theorem extend_extend (m : OrderedMap κ (List α)) (k : κ) (vs ws : List α) :
    (m.extend k vs).extend k ws = m.extend k (vs ++ ws) := by
  rw [extend, extend, get?_insert, if_pos rfl, insert_insert, Option.getD_some, List.append_assoc]
  rfl

/-- Values are added at once or one after the other. -/
theorem pushAll_map (m : OrderedMap κ (List α)) (k : κ) {vs : List α} (h : vs ≠ []) :
    m.pushAll (vs.map fun v => (k, v)) = m.extend k vs := by
  induction vs generalizing m with
  | nil => exact absurd rfl h
  | cons v rest ih =>
    cases rest with
    | nil => rfl
    | cons w rest =>
      calc m.pushAll ((v :: w :: rest).map fun v => (k, v))
        _ = (m.push k v).pushAll ((w :: rest).map fun v => (k, v)) := rfl
        _ = (m.extend k [v]).extend k (w :: rest) := ih (m.push k v) (List.cons_ne_nil w rest)
        _ = m.extend k (v :: w :: rest) := extend_extend m k [v] (w :: rest)

theorem pushAll_append (m : OrderedMap κ (List α)) (ps qs : List (κ × α)) :
    m.pushAll (ps ++ qs) = (m.pushAll ps).pushAll qs :=
  List.foldl_append

/-- Adding rows is adding their pairs. -/
theorem gather_eq_pushAll (m : OrderedMap κ (List α)) (rows : List (κ × List α)) :
    m.gather rows = m.pushAll (rows.flatMap fun row => row.2.map fun v => (row.1, v)) := by
  induction rows generalizing m with
  | nil => rfl
  | cons row rest ih =>
    rw [gather, List.foldl_cons, ← gather, ih, List.flatMap_cons, pushAll_append]
    by_cases hempty : row.2 = []
    · simp [hempty, pushAll]
    · rw [if_neg (by simpa using hempty), pushAll_map m row.1 hempty]

/-! ### All keys -/

/-- A key ends up with the values that it had and, behind them, those that are added for
it. -/
theorem getD_get?_pushAll (m : OrderedMap κ (List α)) (ps : List (κ × α)) (k : κ) :
    ((m.pushAll ps).get? k).getD [] =
      (m.get? k).getD [] ++ (ps.filter fun p => p.1 = k).map Prod.snd := by
  induction ps generalizing m with
  | nil => simp [pushAll]
  | cons p rest ih =>
    rw [pushAll, List.foldl_cons, ← pushAll, ih, push, extend, get?_insert]
    by_cases hk : k = p.1
    · subst hk
      simp
    · simp [hk, Ne.symm hk]

/-- Keys stand in the order of their first appearance. -/
theorem keys_pushAll (ps : List (κ × α)) :
    (empty.pushAll ps).keys = (ps.map Prod.fst).eraseDups := by
  induction ps using List.reverseRecOn with
  | nil => rfl
  | append_singleton ps p ih =>
    have hlast : (empty.pushAll ps).pushAll [p] =
        (empty.pushAll ps).insert p.1 ((((empty.pushAll ps).get? p.1).getD []) ++ [p.2]) := rfl
    rw [pushAll_append, hlast, keys_insert, ih, List.map_append, List.map_singleton,
      eraseDups_concat]
    simp only [List.mem_eraseDups, List.contains_iff_mem]

/-- Pairs that are pushed come out grouped. -/
theorem entries_pushAll (ps : List (κ × α)) : (empty.pushAll ps).entries = grouped ps := by
  rw [entries_eq_map_keys _ [], keys_pushAll, grouped]
  refine List.map_congr_left fun k _ => ?_
  rw [getD_get?_pushAll]
  rfl

/-- Where equal keys stand next to each other, the pushed pairs are found again in their
order. -/
theorem pairs_pushAll {ps : List (κ × α)} (h : Adjacent (ps.map Prod.fst)) :
    (empty.pushAll ps).pairs = ps := by
  have hgroup : ∀ k, ((ps.filter fun p => p.1 = k).map Prod.snd).map (fun v => (k, v)) =
      ps.filter fun p => p.1 = k := by
    intro k
    rw [List.map_map]
    refine (List.map_congr_left fun p hp => ?_).trans (List.map_id _)
    have hkey : p.1 = k := by simpa using (List.mem_filter.1 hp).2
    exact Prod.ext hkey.symm rfl
  rw [pairs, entries_pushAll, grouped, List.flatMap_map]
  simp only [hgroup]
  exact flatMap_eraseDups_filter h

/-! ### Rows -/

/-- The map holds the values of some rows, each of which is a key with values. -/
structure Groups (m : OrderedMap κ (List α)) (rows : List (κ × List α)) : Prop where
  /-- Under a key stand the values of all its rows, row after row. -/
  values : ∀ k, (m.get? k).getD [] = (rows.filter fun row => row.1 = k).flatMap Prod.snd
  /-- A key is there if its rows have values. -/
  mem_keys : ∀ k, k ∈ m.keys ↔ (rows.filter fun row => row.1 = k).flatMap Prod.snd ≠ []
  /-- The keys stand in the order in which they get their first values. -/
  keys : m.keys = ((rows.filter fun row => !row.2.isEmpty).map Prod.fst).eraseDups

theorem gather_concat (m : OrderedMap κ (List α)) (rows : List (κ × List α)) (row : κ × List α) :
    m.gather (rows ++ [row]) =
      if row.2.isEmpty then m.gather rows else (m.gather rows).extend row.1 row.2 := by
  rw [gather, List.foldl_append]
  rfl

/-- Gathering brings in the keys of the rows that have values. -/
theorem keys_gather (rows : List (κ × List α)) :
    (empty.gather rows).keys =
      ((rows.filter fun row => !row.2.isEmpty).map Prod.fst).eraseDups := by
  induction rows using List.reverseRecOn with
  | nil => rfl
  | append_singleton rows row ih =>
    rw [gather_concat, List.filter_append]
    cases hempty : row.2.isEmpty with
    | true => simp [hempty, ih]
    | false =>
      rw [if_neg Bool.false_ne_true, extend, keys_insert, ih,
        List.filter_cons_of_pos (by simp [hempty]), List.filter_nil, List.map_append,
        List.map_singleton, eraseDups_concat]
      simp only [List.mem_eraseDups, List.contains_iff_mem]

/-- Gathered rows are held key by key. -/
theorem groups_gather (rows : List (κ × List α)) : (empty.gather rows).Groups rows where
  values := getD_get?_gather empty rows
  mem_keys := by
    intro k
    rw [keys_gather, List.mem_eraseDups, Ne, List.flatMap_eq_nil_iff]
    simp [List.mem_filter, and_comm]
  keys := keys_gather rows

/-- Rows with values under keys of their own become the entries of a map. -/
theorem gather_eq_ofList {entries : List (κ × List α)} (hnodup : (entries.map Prod.fst).Nodup)
    (hvalues : ∀ e ∈ entries, e.2 ≠ []) : empty.gather entries = ofList entries := by
  induction entries using List.reverseRecOn with
  | nil => rfl
  | append_singleton entries e ih =>
    rw [List.map_append, List.nodup_append] at hnodup
    -- The key of the last row is new, so adding its values is setting them.
    have hnew : e.1 ∉ (ofList entries).keys := fun hmem =>
      hnodup.2.2 e.1 (mem_keys_ofList.1 hmem) e.1 (by simp) rfl
    have hempty : e.2.isEmpty = false := by simpa using hvalues e (by simp)
    rw [gather_concat, ih hnodup.1 fun e' he' => hvalues e' (List.mem_append_left _ he'),
      ofList_concat, hempty, if_neg Bool.false_ne_true, extend, get?_eq_none_iff.2 hnew]
    rfl

/-- A map in which no key stands without a value is gathered from its entries. -/
theorem gather_entries {m : OrderedMap κ (List α)} (h : m.NoneEmpty) :
    empty.gather m.entries = m := by
  rw [gather_eq_ofList m.nodup_keys h]
  exact OrderedMap.ext (entries_ofList m.nodup_keys)

end OrderedMap

end HttpInterface
