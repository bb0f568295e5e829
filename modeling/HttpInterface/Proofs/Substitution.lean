import HttpInterface.Proofs.Delimiters
import HttpInterface.Proofs.Expansion.Values

/-!
# `HttpInterface.Proofs.Substitution`: expanding is substituting in the text

A text with a path and a query is taken apart when it is appended to a template: at the
`?`, at every `&`, at the first `=` of an entry. The entries are grouped by key, every
part is filled on its own, the entries are grouped once more by the keys that came out,
and then the target is written. `target_expand_append` says that all this is one
substitution in the text.

No argument may be none or a list, since those take an entry away or double it
(`Arguments.Single`). And a query must be written the way it is written back, in
groups and without empty entries (`Regroupable`). Then

* the template holds the entries of the text, and these are filled one by one
  (`queries_filledRequest`);
* both groupings leave them where they are (`pairs_pushAll`);
* a filled entry is the filled text of the entry (`toList_text_fillEntry`), and the filled
  parts are put together at characters that no placeholder holds.
-/

set_option autoImplicit false

namespace HttpInterface

open Template (quotedValue filled filledRequest queryValues)

/-! ### Names of a text and of its parts -/

namespace PathAndQuery

/-- The path of a text with a query, and the entries if none of them is empty. -/
theorem parse_of_cut {text : String} {path query : List Char}
    (h : Text.cut '?' text.toList = (path, some query)) (hquery : [] ∉ Text.splitOn '&' query) :
    parse text = ⟨String.ofList path, (Text.splitOn '&' query).map QueryEntry.ofChars⟩ := by
  have hall : (Text.splitOn '&' query).filter (fun cs => !cs.isEmpty) =
      Text.splitOn '&' query := by
    rw [List.filter_eq_self]
    intro part hpart
    have hne : part ≠ [] := fun hnil => hquery (hnil ▸ hpart)
    simpa using hne
  rw [parse, h]
  show PathAndQuery.mk _ (((Text.splitOn '&' query).filter fun cs => !cs.isEmpty).map
    QueryEntry.ofChars) = _
  rw [hall]

/-- The path holds only names of the text. -/
theorem occurrences_path_subset (text : String) :
    Placeholder.occurrences (parse text).path ⊆ Placeholder.occurrences text := by
  rw [← occurrences_parse text]
  exact List.subset_append_left _ _

/-- Every entry of the query holds only names of the text. -/
theorem occurrences_entry_subset {text part : String} {e : QueryEntry}
    (he : e ∈ (parse text).entries) (hpart : part ∈ e.1 :: e.2.toList) :
    Placeholder.occurrences part ⊆ Placeholder.occurrences text := by
  rw [← occurrences_parse text]
  intro name hname
  refine List.mem_append_right _ (List.mem_flatMap.2 ⟨e, he, ?_⟩)
  exact List.mem_flatMap.2 ⟨part, hpart, hname⟩

end PathAndQuery

/-! ### Arguments that stand for one text -/

/-- Every placeholder of the text has an argument that is neither none nor a list. -/
def Arguments.Single (args : Arguments) (text : String) : Prop :=
  ∀ name ∈ Placeholder.occurrences text,
    ∃ v, args.get? name = some v ∧ v.isNull = false ∧ v.items? = none

namespace Arguments.Single

variable {args : Arguments} {text : String}

theorem mono {part : String} (h : args.Single text)
    (hpart : Placeholder.occurrences part ⊆ Placeholder.occurrences text) : args.Single part :=
  fun name hname => h name (hpart hname)

/-- Such an argument is found, it is not none, and it has no elements. -/
theorem value_of_mem {name : String} (h : args.Single text)
    (hname : name ∈ Placeholder.occurrences text) :
    name ∈ args.keys ∧ (args.value name).isNull = false ∧ (args.value name).items? = none := by
  obtain ⟨v, hv, hnull, hitems⟩ := h name hname
  have hvalue : args.value name = v := Arguments.value_of_get? hv
  refine ⟨?_, hvalue ▸ hnull, hvalue ▸ hitems⟩
  exact Decidable.byContradiction fun hmem =>
    nomatch (OrderedMap.get?_eq_none_iff.2 hmem).symm.trans hv

end Arguments.Single

namespace Template

variable {args : Arguments}

/-- A text with such arguments gives one value. -/
theorem fannedOut_of_single {text : String} (h : args.Single text) (render : Value → String) :
    fannedOut args render text = [filled args render text] := by
  have hnone : filledUnlessNone args render text = [filled args render text] := by
    rw [filledUnlessNone, if_neg]
    rw [List.any_eq_true]
    rintro ⟨name, hname, hnull⟩
    exact Bool.false_ne_true ((h.value_of_mem (Placeholder.mem_names.1 hname)).2.1.symm.trans hnull)
  rw [fannedOut]
  split
  · exact hnone
  · next name honly =>
    have hname : name ∈ Placeholder.occurrences text := by
      rw [Placeholder.occurrences_of_only? honly]
      exact List.mem_singleton.2 rfl
    rw [(h.value_of_mem hname).2.2]
    exact hnone

/-- A query entry with every placeholder replaced. -/
def fillEntry (args : Arguments) (e : QueryEntry) : QueryEntry :=
  (filled args quotedValue e.1, e.2.map (filled args quotedValue))

/-- No value is missing if every argument is there and none is none. -/
theorem missing_eq_nil {t : Template}
    (h : ∀ name ∈ t.placeholders, name ∈ args.keys ∧ (args.value name).isNull = false) :
    t.missing args = [] := by
  refine missing_eq_nil_iff.2 ⟨fun name hname => (h name hname).1, fun name hname hnone => ?_⟩
  have hnull := (h name (t.requiredPlaceholders_subset hname)).2
  rw [Arguments.value_of_get? hnone] at hnull
  cases hnull

/-! ### The template of a text -/

/-- The template that a text makes. -/
def ofText (method text : String) : Template where
  method := method
  url := (PathAndQuery.parse text).path
  queries := OrderedMap.empty.pushAll (PathAndQuery.parse text).entries

/-- Appending a text to a fresh builder makes the template of the text. -/
theorem build_append (charset : String) {method : String} (hmethod : method ≠ "")
    (text : String) :
    ∃ b b', (Builder.start charset).run [.setMethod method, .append text] = .ok b ∧
      b.build = .ok (ofText method text, b') := by
  have hrun : (Builder.start charset).run [.setMethod method, .append text] =
      .ok { draft := ((Builder.start charset).draft.setMethod method).append text } := rfl
  refine ⟨_, { draft := ((Builder.start charset).draft.setMethod method).append text
               built := true }, hrun, ?_⟩
  rw [Draft.append_eq]
  have hempty : (method.isEmpty) = false := by simpa using hmethod
  simp only [Builder.build, Draft.setMethod, Builder.start, Option.getD_some, hempty,
    Bool.false_eq_true, if_false, Builder.snapshot, Draft.template, ofText, String.empty_append]

variable {text : String}

/-- No value is missing for the template of a text. -/
theorem missing_ofText (h : args.Single text) (method : String) :
    (ofText method text).missing args = [] := by
  have hsingle : ∀ part ∈ (ofText method text).httpTexts, args.Single part := by
    intro part hpart
    rw [mem_httpTexts (OrderedMap.noneEmpty_pushAll OrderedMap.noneEmpty_empty _)] at hpart
    rcases hpart with rfl | ⟨e, he, hpart⟩ | ⟨e, he, -⟩
    · exact h.mono (PathAndQuery.occurrences_path_subset text)
    · have hmem : e ∈ (PathAndQuery.parse text).entries :=
        (OrderedMap.mem_pairs_pushAll.1 he).resolve_left List.not_mem_nil
      refine h.mono (PathAndQuery.occurrences_entry_subset hmem ?_)
      rcases hpart with rfl | hpart
      · exact List.mem_cons_self
      · exact List.mem_cons_of_mem _ (Option.mem_toList.2 hpart)
    · exact absurd he List.not_mem_nil
  refine missing_eq_nil fun name hname => ?_
  rcases mem_placeholders.1 hname with hname | ⟨body, hbody, -⟩
  · obtain ⟨part, hpart, hname⟩ := mem_httpPlaceholders.1 hname
    have hvalue := (hsingle part hpart).value_of_mem hname
    exact ⟨hvalue.1, hvalue.2.1⟩
  · exact nomatch hbody

/-- The query of a text is written the way it is written back: no entry is empty, and
entries with the same key stand together, both before and after the keys are filled. -/
structure Regroupable (args : Arguments) (text : String) : Prop where
  no_empty : ∀ query, (Text.cut '?' text.toList).2 = some query → [] ∉ Text.splitOn '&' query
  raw_keys : Adjacent ((PathAndQuery.parse text).entries.map Prod.fst)
  filled_keys :
    Adjacent ((PathAndQuery.parse text).entries.map fun e => filled args quotedValue e.1)
  query : '?' ∈ text.toList → (Text.cut '?' (filled args quotedValue text).toList).2 ≠ some []

/-- The entries of the query of a text, filled one by one. -/
theorem queryEntries_ofText (h : args.Single text) (hquery : Regroupable args text)
    (method : String) :
    ((ofText method text).filledRequest args).queryEntries =
      (PathAndQuery.parse text).entries.map (fillEntry args) := by
  -- Neither the grouping by raw keys nor the one by filled keys moves an entry.
  have hraw : (ofText method text).queries.pairs = (PathAndQuery.parse text).entries :=
    OrderedMap.pairs_pushAll hquery.raw_keys
  have hfill : ∀ e ∈ (PathAndQuery.parse text).entries,
      ((queryValues args e.2).map fun v => (filled args quotedValue e.1, v)) =
        [fillEntry args e] := by
    intro e he
    obtain ⟨key, value⟩ := e
    cases value with
    | none => rfl
    | some v =>
      have hv := h.mono (PathAndQuery.occurrences_entry_subset he (show v ∈ _ by simp))
      rw [queryValues, fannedOut_of_single hv]
      rfl
  have hfilled : ((ofText method text).filledRequest args).queries =
      OrderedMap.empty.pushAll ((PathAndQuery.parse text).entries.map (fillEntry args)) := by
    rw [queries_filledRequest, hraw, List.flatMap_def, List.map_congr_left hfill,
      ← List.flatMap_def, ← List.map_eq_flatMap]
  show OrderedMap.pairs _ = _
  rw [hfilled]
  refine OrderedMap.pairs_pushAll ?_
  rw [List.map_map]
  exact hquery.filled_keys

/-- The text of a filled entry is the filled text of the entry. -/
theorem toList_text_fillEntry (args : Arguments) (part : List Char) :
    (fillEntry args (QueryEntry.ofChars part)).text.toList =
      Placeholder.filled (fun name => quotedValue (args.value name)) part := by
  -- A flag is all key; else the first `=` stays between what both sides are filled to.
  rcases Text.cut_cases '=' part with ⟨-, hcut⟩ | ⟨key, value, rfl, -, hcut⟩
  · rw [QueryEntry.ofChars, hcut]
    show (filled args quotedValue (String.ofList part)).toList = _
    rw [filled, Placeholder.toList_substitute, String.toList_ofList]
  · rw [QueryEntry.ofChars, hcut, Placeholder.filled_append (by decide)]
    show (filled args quotedValue (String.ofList key) ++ "=" ++
      filled args quotedValue (String.ofList value)).toList = _
    rw [filled, filled, String.toList_append, String.toList_append, Placeholder.toList_substitute,
      Placeholder.toList_substitute, String.toList_ofList, String.toList_ofList]
    simp

/-- The filled query is one text again. -/
theorem queryString_ofText (h : args.Single text) (hquery : Regroupable args text)
    (method : String) {path query : List Char}
    (hcut : Text.cut '?' text.toList = (path, some query)) :
    ((ofText method text).filledRequest args).queryString =
      String.ofList (Placeholder.filled (fun name => quotedValue (args.value name)) query) := by
  have hparse := PathAndQuery.parse_of_cut hcut (hquery.no_empty query (by rw [hcut]))
  have hparts : (((Text.splitOn '&' query).map QueryEntry.ofChars).map (fillEntry args)).map
        (fun e => e.text.toList) =
      (Text.splitOn '&' query).map
        (Placeholder.filled fun name => quotedValue (args.value name)) := by
    rw [List.map_map, List.map_map]
    exact List.map_congr_left fun part _ => toList_text_fillEntry args part
  calc ((ofText method text).filledRequest args).queryString
    _ = QueryEntry.join
        (((Text.splitOn '&' query).map QueryEntry.ofChars).map (fillEntry args)) := by
      rw [ExpandedRequest.queryString, queryEntries_ofText h hquery, hparse]
    _ = String.ofList (Text.joinWith '&' ((Text.splitOn '&' query).map
          (Placeholder.filled fun name => quotedValue (args.value name)))) := by
      rw [QueryEntry.join, hparts]
    _ = String.ofList (Placeholder.filled (fun name => quotedValue (args.value name)) query) := by
      rw [← Placeholder.filled_joinWith (by decide), Text.joinWith_splitOn]

/-- The request of a text is written as the filled text. -/
theorem target_ofText (h : args.Single text) (hquery : Regroupable args text) (method : String) :
    ((ofText method text).filledRequest args).target .null = filled args quotedValue text := by
  rcases Text.cut_cases '?' text.toList with ⟨-, hcut⟩ | ⟨path, query, htext, hpath, hcut⟩
  · have hparse : PathAndQuery.parse text = ⟨text, []⟩ := by
      rw [PathAndQuery.parse, hcut]
      exact congrArg (PathAndQuery.mk · []) String.ofList_toList
    have hnone : ((ofText method text).filledRequest args).queryString = "" := by
      rw [ExpandedRequest.queryString, queryEntries_ofText h hquery, hparse]
      rfl
    rw [ExpandedRequest.target, hnone, if_pos (show "".isEmpty = true from rfl)]
    show filled args quotedValue (PathAndQuery.parse text).path = _
    rw [hparse]
  · have hparse := PathAndQuery.parse_of_cut hcut (hquery.no_empty query (by rw [hcut]))
    have hfilled : (filled args quotedValue text).toList =
        Placeholder.filled (fun name => quotedValue (args.value name)) path ++ '?' ::
          Placeholder.filled (fun name => quotedValue (args.value name)) query := by
      rw [filled, Placeholder.toList_substitute, htext, Placeholder.filled_append (by decide)]
    have hurl : ((ofText method text).filledRequest args).url.toList =
        Placeholder.filled (fun name => quotedValue (args.value name)) path := by
      rw [toList_url, ofText, hparse, String.toList_ofList]
    -- No argument brings a `?`, so the query of the filled text is the filled query.
    have hnonempty : Placeholder.filled (fun name => quotedValue (args.value name)) query ≠ [] := by
      intro hnil
      refine hquery.query (by rw [htext]; simp) ?_
      rw [hfilled, hnil, Text.cut_append]
      intro hmem
      rcases Placeholder.mem_filled hmem with hmem | ⟨name, -, hmem⟩
      · exact hpath hmem
      · exact not_mem_quotedValue (by decide) _ hmem
    rw [ExpandedRequest.target, queryString_ofText h hquery method hcut,
      if_neg (by simpa using hnonempty)]
    show ((ofText method text).filledRequest args).url ++ "?" ++ _ = _
    rw [← String.toList_inj, String.toList_append, String.toList_append, hurl, hfilled,
      String.toList_ofList]
    simp

end Template

/-- Compiling a text and expanding it gives the text with the arguments put in. -/
theorem target_expand_append (bodyCharset charset method text : String) (args : Arguments)
    (hmethod : method ≠ "") (hargs : args.Single text)
    (hquery : Template.Regroupable args text) :
    ∃ b b' t r,
      (Builder.start bodyCharset).run [.setMethod method, .append text] = .ok b ∧
      b.build = .ok (t, b') ∧ t.expand args charset = .ok r ∧
      r.target .null =
        Placeholder.substitute (fun name => Percent.quote (args.value name).requestText) text := by
  obtain ⟨b, b', hrun, hbuild⟩ := Template.build_append bodyCharset hmethod text
  refine ⟨b, b', _, (Template.ofText method text).filledRequest args, hrun, hbuild, ?_,
    Template.target_ofText hargs hquery method⟩
  exact Template.expand_eq (Template.missing_ofText hargs method) charset

/-- A path and a query with names everywhere, with a flag, an empty value, a value that
holds `=`, and a key that comes twice. -/
def sampleText : String :=
  "/shops/{shop}?new&tag={tag}&tag=x=y&{key}=&k=%20"

/-- Arguments that hold delimiters and a character outside ASCII. -/
def singleArguments : Arguments :=
  .ofList [("shop", .text "a/b?c&d"), ("tag", .int 7), ("key", .text "é=")]

theorem target_expand_append_sample :
    ∃ b b' t r,
      (Builder.start "utf-8").run [.setMethod "GET", .append sampleText] = .ok b ∧
      b.build = .ok (t, b') ∧ t.expand singleArguments "utf-8" = .ok r ∧
      r.target .null = "/shops/a%2Fb%3Fc%26d?new&tag=7&tag=x=y&%C3%A9%3D=&k=%20" := by
  have hargs : singleArguments.Single sampleText := by
    intro name hname
    have hnames : Placeholder.occurrences sampleText = ["shop", "tag", "key"] := by decide
    rw [hnames] at hname
    simp only [List.mem_cons, List.not_mem_nil, or_false] at hname
    rcases hname with rfl | rfl | rfl
    · exact ⟨.text "a/b?c&d", rfl, rfl, rfl⟩
    · exact ⟨.int 7, rfl, rfl, rfl⟩
    · exact ⟨.text "é=", rfl, rfl, rfl⟩
  have hquery : Template.Regroupable singleArguments sampleText := by
    refine ⟨?_, by decide, by decide +kernel, by decide +kernel⟩
    intro query h
    obtain rfl := Option.some.inj h
    decide
  have htext : Placeholder.substitute
      (fun name => Percent.quote (singleArguments.value name).requestText) sampleText =
        "/shops/a%2Fb%3Fc%26d?new&tag=7&tag=x=y&%C3%A9%3D=&k=%20" := by
    decide +kernel
  have h := target_expand_append "utf-8" "utf-8" "GET" sampleText singleArguments (by decide) hargs
    hquery
  rwa [htext] at h

end HttpInterface
