import HttpInterface.PathAndQuery
import HttpInterface.Proofs.Placeholder

/-!
# `HttpInterface.Proofs.PathAndQuery`: entries survive being written and read

A query entry is `Delimited` when it keeps clear of the characters that separate
entries and end keys. Reading a query gives delimited entries only
(`delimited_of_mem_parse`), and delimited entries that are written next to each
other are read back as they were (`readEntries_join`). The one exception is the
flag with the empty key: it leaves no trace in the text.

Taking a text apart keeps its placeholders, each in its place (`occurrences_parse`): the separators
stand in no placeholder.

So reading and writing undo each other where both can: a path and entries that are
`Proper` are read back from what they are written as (`parse_render`), and what is read of
a text is written as that text without its empty entries (`render_parse`).
-/

set_option autoImplicit false

namespace HttpInterface

namespace QueryEntry

/-- The entry holds no `&`, and its key no `=`. -/
structure Delimited (e : QueryEntry) : Prop where
  key_amp : '&' ∉ e.1.toList
  key_eq : '=' ∉ e.1.toList
  value_amp : ∀ v, e.2 = some v → '&' ∉ v.toList

/-- The text of a delimited entry holds no `&`. -/
theorem Delimited.text_amp {e : QueryEntry} (h : e.Delimited) : '&' ∉ e.text.toList := by
  obtain ⟨key, value⟩ := e
  cases value with
  | none => exact h.key_amp
  | some v =>
    simp only [text, String.toList_append, List.mem_append, not_or]
    exact ⟨⟨h.key_amp, by decide⟩, h.value_amp v rfl⟩

/-- Reading the text of a delimited entry gives the entry back. -/
theorem Delimited.ofChars_text {e : QueryEntry} (h : e.Delimited) :
    ofChars e.text.toList = e := by
  obtain ⟨key, value⟩ := e
  cases value with
  | none =>
    rw [text, ofChars, Text.cut_of_not_mem h.key_eq]
    simp
  | some v =>
    have htext : (text (key, some v)).toList = key.toList ++ '=' :: v.toList := by
      simp [text, String.toList_append]
    rw [htext, ofChars, Text.cut_append h.key_eq]
    simp

/-- Only the flag with the empty key has an empty text. -/
theorem text_toList_eq_nil {e : QueryEntry} : e.text.toList = [] ↔ e = ("", none) := by
  obtain ⟨key, value⟩ := e
  cases value with
  | none => simp [text]
  | some v => simp [text, String.toList_append]

/-- Writing the entry that was read of a text gives the text. -/
theorem text_ofChars (cs : List Char) : (ofChars cs).text.toList = cs := by
  rcases Text.cut_cases '=' cs with ⟨-, hcut⟩ | ⟨key, value, rfl, -, hcut⟩
  · rw [ofChars, hcut]
    exact String.toList_ofList
  · rw [ofChars, hcut]
    simp [text, String.toList_append]

/-- Writing the entries that were read of some texts joins the texts. -/
theorem toList_join_map_ofChars (pieces : List (List Char)) :
    (join (pieces.map ofChars)).toList = Text.joinWith '&' pieces := by
  have hpieces : (pieces.map ofChars).map (fun e => e.text.toList) = pieces := by
    rw [List.map_map]
    exact (List.map_congr_left fun cs _ => text_ofChars cs).trans (List.map_id pieces)
  rw [join, String.toList_ofList, hpieces]

/-- An entry read from a text without `&` is delimited. -/
theorem delimited_ofChars {cs : List Char} (h : '&' ∉ cs) : (ofChars cs).Delimited where
  key_amp hmem := by
    rw [ofChars, String.toList_ofList] at hmem
    exact h (Text.mem_of_mem_cut_fst hmem)
  key_eq hmem := by
    rw [ofChars, String.toList_ofList] at hmem
    exact Text.not_mem_cut_fst '=' cs hmem
  value_amp v hv hmem := by
    rw [ofChars, Option.map_eq_some_iff] at hv
    obtain ⟨chars, hchars, rfl⟩ := hv
    rw [String.toList_ofList] at hmem
    exact h (Text.mem_of_mem_cut_snd hchars hmem)

end QueryEntry

namespace PathAndQuery

/-- Reading delimited entries that were written next to each other gives them
back, except for flags with the empty key. -/
theorem readEntries_join {entries : List QueryEntry} (h : ∀ e ∈ entries, e.Delimited) :
    readEntries (QueryEntry.join entries).toList = entries.filter (· ≠ ("", none)) := by
  have hsplit : (Text.splitOn '&' (QueryEntry.join entries).toList).filter (fun cs => !cs.isEmpty) =
      (entries.map fun e => e.text.toList).filter fun cs => !cs.isEmpty := by
    rw [QueryEntry.join, String.toList_ofList]
    -- No entries give the empty text, which is split into one empty part.
    cases entries with
    | nil => rfl
    | cons e rest =>
      rw [Text.splitOn_joinWith (by simp)]
      intro p hp
      obtain ⟨f, hf, rfl⟩ := List.mem_map.1 hp
      exact (h f hf).text_amp
  rw [readEntries, hsplit, List.filter_map, List.map_map]
  -- The parts that are dropped because they are empty are the flags with the empty key.
  have hfilter : entries.filter ((fun cs => !cs.isEmpty) ∘ fun e : QueryEntry => e.text.toList) =
      entries.filter (· ≠ ("", none)) := by
    refine List.filter_congr fun e _ => ?_
    by_cases he : e = ("", none)
    · simp [he, QueryEntry.text]
    · have hne : e.text.toList ≠ [] := fun hnil => he (QueryEntry.text_toList_eq_nil.1 hnil)
      simp [he, hne]
  rw [hfilter, List.map_congr_left fun e he => ?_, List.map_id]
  exact (h e (List.mem_filter.1 he).1).ofChars_text

theorem parse_of_not_mem {text : String} (h : '?' ∉ text.toList) : parse text = ⟨text, []⟩ := by
  rw [parse, Text.cut_of_not_mem h]
  simp only [String.ofList_toList]

/-- A text is read as the path before its first `?` and the entries behind it. -/
theorem parse_append {path : String} (h : '?' ∉ path.toList) (query : String) :
    parse (path ++ "?" ++ query) = ⟨path, readEntries query.toList⟩ := by
  have hcut : Text.cut '?' (path ++ "?" ++ query).toList = (path.toList, some query.toList) := by
    rw [String.toList_append, String.toList_append, List.append_assoc]
    exact Text.cut_append h query.toList
  rw [parse, hcut]
  simp only [String.ofList_toList]

/-- A path holds no `?`. -/
theorem not_mem_path_parse (text : String) : '?' ∉ (parse text).path.toList := by
  have h := Text.not_mem_cut_fst '?' text.toList
  unfold parse
  split
  · next heq =>
    rw [heq] at h
    rwa [String.toList_ofList]
  · next heq =>
    rw [heq] at h
    rwa [String.toList_ofList]

/-- Every entry of a query is delimited. -/
theorem delimited_of_mem_parse {text : String} {e : QueryEntry} (h : e ∈ (parse text).entries) :
    e.Delimited := by
  unfold parse at h
  split at h
  · exact absurd h List.not_mem_nil
  · next query _ =>
    obtain ⟨cs, hcs, rfl⟩ := List.mem_map.1 h
    exact QueryEntry.delimited_ofChars (Text.not_mem_of_mem_splitOn (List.mem_filter.1 hcs).1)

/-! ### Names -/

/-- The key and the value of an entry have the names of the text that they were read of. -/
theorem occurrences_ofChars (cs : List Char) :
    ((QueryEntry.ofChars cs).1 :: (QueryEntry.ofChars cs).2.toList).flatMap
      Placeholder.occurrences = Placeholder.slots cs := by
  have hplain : Placeholder.isPlain '=' = true := by decide
  rw [← Placeholder.slots_cut hplain cs, QueryEntry.ofChars]
  rcases Text.cut '=' cs with ⟨key, none | value⟩ <;> simp [Placeholder.occurrences_eq]

/-- Taking a text apart keeps its names where they are: no name lies across a cut, and none comes
about by one. -/
theorem occurrences_parse (text : String) :
    Placeholder.occurrences (parse text).path ++ (parse text).entries.flatMap
      (fun e => (e.1 :: e.2.toList).flatMap Placeholder.occurrences) =
        Placeholder.occurrences text := by
  have hquestion : Placeholder.isPlain '?' = true := by decide
  have hamp : Placeholder.isPlain '&' = true := by decide
  rw [Placeholder.occurrences_eq text, ← Placeholder.slots_cut hquestion text.toList, parse]
  split
  · next path hcut =>
    rw [hcut, Placeholder.occurrences_eq, String.toList_ofList]
    rfl
  · next path query hcut =>
    -- An empty entry has no name to lose.
    have hentries : (readEntries query).flatMap
        (fun e => (e.1 :: e.2.toList).flatMap Placeholder.occurrences) =
          Placeholder.slots query := by
      rw [readEntries, List.flatMap_map, ← Placeholder.slots_splitOn hamp]
      simp only [occurrences_ofChars]
      refine flatMap_filter_of_eq_nil fun cs _ hempty => ?_
      obtain rfl : cs = [] := by simpa using hempty
      rfl
    rw [hcut, Placeholder.occurrences_eq, String.toList_ofList, hentries, Option.elim_some]

/-! ### Reading and writing -/

/-- The path ends where the query begins, and every entry is delimited and leaves a trace. -/
structure Proper (p : PathAndQuery) : Prop where
  path : '?' ∉ p.path.toList
  entries : ∀ e ∈ p.entries, e.Delimited ∧ e ≠ ("", none)

/-- The text without the empty entries of its query, and without the `?` if no entry is left. -/
def withoutEmptyEntries (text : String) : String :=
  match Text.cut '?' text.toList with
  | (_, none) => text
  | (path, some query) =>
    match (Text.splitOn '&' query).filter fun cs => !cs.isEmpty with
    | [] => String.ofList path
    | kept => String.ofList (path ++ '?' :: Text.joinWith '&' kept)

example : withoutEmptyEntries "/?&a=1&&b&=&" = "/?a=1&b&=" := by decide

/-- Reading undoes writing. -/
theorem parse_render {p : PathAndQuery} (h : p.Proper) : parse p.render = p := by
  obtain ⟨path, entries⟩ := p
  cases entries with
  | nil => exact parse_of_not_mem h.path
  | cons e rest =>
    have hentries : readEntries (QueryEntry.join (e :: rest)).toList = e :: rest := by
      rw [readEntries_join fun f hf => (h.entries f hf).1, List.filter_eq_self]
      exact fun f hf => by simpa using (h.entries f hf).2
    exact (parse_append h.path _).trans (by rw [hentries])

/-- Whatever is read is proper. -/
theorem proper_parse (text : String) : (parse text).Proper where
  path := not_mem_path_parse text
  entries e he := by
    refine ⟨delimited_of_mem_parse he, ?_⟩
    rintro rfl
    unfold parse at he
    split at he
    · exact absurd he List.not_mem_nil
    · -- The flag with the empty key is read of the empty text only, and that is skipped.
      next query _ =>
      obtain ⟨cs, hcs, hread⟩ := List.mem_map.1 he
      have htext := QueryEntry.text_ofChars cs
      rw [hread] at htext
      have hne : cs ≠ [] := by simpa using (List.mem_filter.1 hcs).2
      exact hne htext.symm

/-- Writing what was read of a text gives the text without its empty entries. -/
theorem render_parse (text : String) : (parse text).render = withoutEmptyEntries text := by
  rcases Text.cut_cases '?' text.toList with ⟨-, hcut⟩ | ⟨path, query, -, -, hcut⟩
  · rw [parse, withoutEmptyEntries, hcut]
    exact String.ofList_toList
  · rw [parse, withoutEmptyEntries, hcut]
    dsimp only
    rw [readEntries]
    -- Both sides depend on the same kept entries, on the texts or on what is read of them.
    generalize (Text.splitOn '&' query).filter (fun cs => !cs.isEmpty) = kept
    cases kept with
    | nil => rfl
    | cons piece pieces =>
      refine String.toList_inj.1 ?_
      show (String.ofList path ++ "?" ++
        QueryEntry.join ((piece :: pieces).map QueryEntry.ofChars)).toList = _
      rw [String.toList_append, QueryEntry.toList_join_map_ofChars]
      simp

/-- Reading and writing undo each other, up to entries that are empty. -/
theorem parse_inverse_render :
    (∀ p : PathAndQuery, p.Proper → parse p.render = p) ∧
      ∀ text : String, (parse text).Proper ∧ (parse text).render = withoutEmptyEntries text :=
  ⟨fun _ => parse_render, fun text => ⟨proper_parse text, render_parse text⟩⟩

/-- An entry with the empty key, an empty value, a flag, and separators in a value. -/
theorem parse_inverse_render_filter :
    Proper ⟨"/r", [("", some ""), ("q", some ""), ("flag", none), ("f", some "a=b?")]⟩ ∧
      parse "/r?=&q=&flag&f=a=b?" =
        ⟨"/r", [("", some ""), ("q", some ""), ("flag", none), ("f", some "a=b?")]⟩ ∧
      (parse "/?&&").render = "/" := by
  have hproper :
      Proper ⟨"/r", [("", some ""), ("q", some ""), ("flag", none), ("f", some "a=b?")]⟩ := by
    refine ⟨by decide, ?_⟩
    intro e he
    simp only [List.mem_cons, List.not_mem_nil, or_false] at he
    rcases he with rfl | rfl | rfl | rfl <;> exact ⟨⟨by decide, by decide, by simp⟩, by decide⟩
  exact ⟨hproper, parse_inverse_render.1 _ hproper,
    (parse_inverse_render.2 "/?&&").2.trans (by decide)⟩

end PathAndQuery

end HttpInterface
