import HttpInterface.Expansion
import HttpInterface.Proofs.Draft
import HttpInterface.Proofs.List
import HttpInterface.Proofs.OrderedMap
import HttpInterface.Proofs.Placeholder

/-!
# `HttpInterface.Proofs.Expansion`: what filling the gaps gives

Filling looks up one name after the other, and a look-up may fail. `Arguments.value`
is a look-up that cannot: it takes none for a name without an argument. Where every
name of a text has an argument (`Covers`) both are the same, and so each step of
filling is a plain function of the text and the arguments.

`expand_eq` puts these functions together. If no value is missing, only the body can
still fail, and `exists_coding_of_expandBody` says that it fails only in its charset.

A value is missing for two reasons. Every placeholder needs an argument (`absentNames` are those
without), and a name of the url, a query key or the body template needs one that is not none
(`noneNames` are those that are). `missing_eq_append` says that a template misses the former and
then the latter, and `nodup_missing` that no name is told twice.
-/

set_option autoImplicit false

namespace HttpInterface

namespace Arguments

variable {args : Arguments}

/-- The argument of a name; none, if it has no argument. -/
def value (args : Arguments) (name : String) : Value :=
  (args.get? name).getD .null

/-- Every placeholder of a text has an argument. -/
def Covers (args : Arguments) (text : String) : Prop :=
  ∀ name ∈ Placeholder.occurrences text, name ∈ args.keys

theorem find_eq_ok {name : String} (h : name ∈ args.keys) :
    args.find name = .ok (args.value name) := by
  obtain ⟨v, hv⟩ := OrderedMap.exists_get?_of_mem_keys h
  rw [find, value, hv]
  rfl

theorem value_of_get? {name : String} {v : Value} (h : args.get? name = some v) :
    args.value name = v := by
  rw [value, h, Option.getD_some]

theorem isNone_iff {name : String} : args.isNone name = true ↔ args.get? name = some .null := by
  rw [isNone, Option.any_eq_true]
  constructor
  · rintro ⟨v, hv, hnull⟩
    cases v with
    | null => exact hv
    | _ => exact nomatch hnull
  · intro h
    exact ⟨.null, h, rfl⟩

end Arguments

namespace Template

variable {args : Arguments} {render : Value → String} {text : String}

/-! ### Texts and values -/

/-- A text with every placeholder replaced. -/
def filled (args : Arguments) (render : Value → String) (text : String) : String :=
  Placeholder.substitute (fun name => render (args.value name)) text

theorem fill_eq (h : args.Covers text) : fill args render text = .ok (filled args render text) := by
  refine Placeholder.substituteM_eq_ok fun name hname => ?_
  rw [Arguments.find_eq_ok (h name hname)]
  rfl

/-- A text with every placeholder replaced, unless one of them is none. -/
def filledUnlessNone (args : Arguments) (render : Value → String) (text : String) :
    List String :=
  if (Placeholder.names text).any fun name => (args.value name).isNull then []
  else [filled args render text]

theorem fillUnlessNone_eq (h : args.Covers text) :
    fillUnlessNone args render text = .ok (filledUnlessNone args render text) := by
  have hvalues : (Placeholder.names text).mapM args.find =
      .ok ((Placeholder.names text).map args.value) :=
    mapM_eq_ok fun name hname => Arguments.find_eq_ok (h name (Placeholder.mem_names.1 hname))
  have hany : ((Placeholder.names text).map args.value).any Value.isNull =
      (Placeholder.names text).any fun name => (args.value name).isNull := List.any_map
  rw [fillUnlessNone, hvalues, filledUnlessNone, fill_eq h, ← hany]
  show (if ((Placeholder.names text).map args.value).any Value.isNull then Except.ok []
    else .ok [filled args render text]) = _
  cases ((Placeholder.names text).map args.value).any Value.isNull with
  | false => rfl
  | true => rfl

/-- The values that a query or header value gives. -/
def fannedOut (args : Arguments) (render : Value → String) (text : String) : List String :=
  match Placeholder.only? text with
  | none => filledUnlessNone args render text
  | some name =>
    match (args.value name).items? with
    | some items => (items.filter fun v => !v.isNull).map render
    | none => filledUnlessNone args render text

theorem fanOut_eq (h : args.Covers text) :
    fanOut args render text = .ok (fannedOut args render text) := by
  rw [fanOut, fannedOut]
  cases honly : Placeholder.only? text with
  | none => exact fillUnlessNone_eq h
  | some name =>
    have hname : name ∈ args.keys :=
      h name (by rw [Placeholder.occurrences_of_only? honly]; exact List.mem_singleton.2 rfl)
    simp only [Arguments.find_eq_ok hname]
    -- A list gives its elements; anything else is filled in like a longer text.
    cases hitems : (args.value name).items? with
    | none =>
      simp only [bind, Except.bind, hitems]
      exact fillUnlessNone_eq h
    | some items =>
      simp only [bind, Except.bind, hitems]
      rfl

/-- A text without placeholders gives itself. -/
theorem fannedOut_of_occurrences (h : Placeholder.occurrences text = []) :
    fannedOut args render text = [text] := by
  have honly : Placeholder.only? text = none := by
    cases honly : Placeholder.only? text with
    | none => rfl
    | some name =>
      rw [Placeholder.occurrences_of_only? honly] at h
      exact nomatch h
  have hnames : Placeholder.names text = [] := by
    rw [Placeholder.names, h]
    rfl
  rw [fannedOut, honly]
  show filledUnlessNone args render text = [text]
  rw [filledUnlessNone, hnames, filled, Placeholder.substitute_eq, Placeholder.filled_of_slots h,
    String.ofList_toList]
  rfl

/-- The values that a query value gives. -/
def queryValues (args : Arguments) : Option String → List (Option String)
  | none => [none]
  | some text => (fannedOut args quotedValue text).map some

theorem expandQueryValue_eq {value : Option String} (h : ∀ text ∈ value, args.Covers text) :
    expandQueryValue args value = .ok (queryValues args value) := by
  cases value with
  | none => rfl
  | some text =>
    rw [expandQueryValue, fanOut_eq (h text rfl)]
    rfl

/-! ### Queries and headers -/

/-- The key and the values that one key of the queries gives. -/
def queryRow (args : Arguments) (entry : String × List (Option String)) :
    String × List (Option String) :=
  (filled args quotedValue entry.1, entry.2.flatMap (queryValues args))

theorem expandQuery_eq {entry : String × List (Option String)} (hkey : args.Covers entry.1)
    (hvalues : ∀ text, some text ∈ entry.2 → args.Covers text)
    (built : OrderedMap String (List (Option String))) :
    expandQuery args built entry =
      .ok (if (queryRow args entry).2.isEmpty then built
        else built.extend (queryRow args entry).1 (queryRow args entry).2) := by
  have hall : entry.2.mapM (expandQueryValue args) = .ok (entry.2.map (queryValues args)) := by
    refine mapM_eq_ok fun value hvalue => expandQueryValue_eq fun text htext => ?_
    exact hvalues text (Option.mem_def.1 htext ▸ hvalue)
  rw [expandQuery, fill_eq hkey, hall, queryRow, List.flatMap_def]
  rfl

/-- The values that one header gives. -/
def headerValues (args : Arguments) (texts : List String) : List String :=
  texts.flatMap (fannedOut args Value.requestText)

/-- The headers after one more of the template; a header without values is left out. -/
def addHeaderValues (args : Arguments) (built : OrderedMap String (List String))
    (entry : String × List String) : OrderedMap String (List String) :=
  if (headerValues args entry.2).isEmpty then built
  else built.insert entry.1 (headerValues args entry.2)

theorem expandHeader_eq {entry : String × List String}
    (hvalues : ∀ text ∈ entry.2, args.Covers text) (built : OrderedMap String (List String)) :
    expandHeader args built entry = .ok (addHeaderValues args built entry) := by
  have hall : entry.2.mapM (fanOut args Value.requestText) =
      .ok (entry.2.map (fannedOut args Value.requestText)) :=
    mapM_eq_ok fun text htext => fanOut_eq (hvalues text htext)
  rw [expandHeader, hall, addHeaderValues, headerValues, List.flatMap_def]
  rfl

/-- The request that a template gives, but for the body of a body template. -/
def filledRequest (t : Template) (args : Arguments) : ExpandedRequest where
  method := t.method
  url := filled args quotedValue t.url
  queries := OrderedMap.empty.gather (t.queries.entries.map (queryRow args))
  headers := t.headers.entries.foldl (addHeaderValues args) .empty
  body := t.body

/-- Every header of the template gives its values under its own name. -/
theorem entries_headers (t : Template) (args : Arguments) :
    (t.filledRequest args).headers.entries =
      (t.headers.entries.map fun e => (e.1, headerValues args e.2)).filter fun e =>
        !e.2.isEmpty := by
  have hfold : (t.filledRequest args).headers = OrderedMap.ofList
      ((t.headers.entries.map fun e => (e.1, headerValues args e.2)).filter fun e =>
        !e.2.isEmpty) := by
    rw [OrderedMap.ofList, List.foldl_filter, List.foldl_map, filledRequest]
    show List.foldl _ _ _ = _
    congr 1
    funext built e
    rw [addHeaderValues]
    cases (headerValues args e.2).isEmpty <;> rfl
  rw [hfold, OrderedMap.entries_ofList]
  have hkeys :
      ((t.headers.entries.map fun e => (e.1, headerValues args e.2)).map Prod.fst).Nodup := by
    rw [List.map_map]
    exact t.headers.nodup_keys
  exact hkeys.sublist (List.filter_sublist.map _)

/-- Every header value of the template gives its values under the same name. -/
theorem pairs_headers (t : Template) (args : Arguments) :
    (t.filledRequest args).headers.pairs =
      t.headers.pairs.flatMap fun p =>
        (fannedOut args Value.requestText p.2).map fun v => (p.1, v) := by
  rw [OrderedMap.pairs, entries_headers, OrderedMap.pairs, List.flatMap_assoc]
  -- A header that is left out would give no pair.
  induction t.headers.entries with
  | nil => rfl
  | cons e rest ih =>
    have hrow : ((e.2.map fun v => (e.1, v)).flatMap fun p =>
        (fannedOut args Value.requestText p.2).map fun v => (p.1, v)) =
        (headerValues args e.2).map fun v => (e.1, v) := by
      rw [List.flatMap_map, headerValues, List.map_flatMap]
    rw [List.map_cons, List.filter_cons, List.flatMap_cons, ← ih, hrow]
    by_cases hempty : headerValues args e.2 = []
    · simp [hempty]
    · rw [if_pos (by simpa using hempty), List.flatMap_cons]

/-- A request with a body and the header that states its length. -/
def withBody (r : ExpandedRequest) (body : Bytes) : ExpandedRequest :=
  { r with
    headers := r.headers.insert Header.contentLength [lengthText body]
    body := some body }

/-! ### The whole template -/

variable {t : Template}

theorem url_mem_httpTexts (t : Template) : t.url ∈ t.httpTexts :=
  List.mem_append_left _ List.mem_cons_self

section

variable {entry : String × List (Option String)} (hentry : entry ∈ t.queries.entries)
include hentry

theorem key_mem_httpTexts : entry.1 ∈ t.httpTexts :=
  List.mem_append_left _ (List.mem_cons_of_mem _
    (List.mem_flatMap.2 ⟨entry, hentry, List.mem_cons_self⟩))

theorem value_mem_httpTexts {text : String} (htext : some text ∈ entry.2) : text ∈ t.httpTexts :=
  List.mem_append_left _ (List.mem_cons_of_mem _ (List.mem_flatMap.2
    ⟨entry, hentry, List.mem_cons_of_mem _ (List.mem_filterMap.2 ⟨_, htext, rfl⟩)⟩))

end

theorem header_mem_httpTexts {entry : String × List String} (hentry : entry ∈ t.headers.entries)
    {text : String} (htext : text ∈ entry.2) : text ∈ t.httpTexts :=
  List.mem_append_right _
    (List.mem_flatten.2 ⟨entry.2, List.mem_map.2 ⟨entry, hentry, rfl⟩, htext⟩)

/-- The names of a text of the template are names of the template. -/
theorem occurrences_subset_placeholders (htext : text ∈ t.httpTexts) :
    Placeholder.occurrences text ⊆ t.placeholders := fun _ hname =>
  mem_placeholders.2 (Or.inl (mem_httpPlaceholders.2 ⟨text, htext, hname⟩))

theorem occurrences_bodyTemplate_subset (htext : t.bodyTemplate = some text) :
    Placeholder.occurrences text ⊆ t.placeholders := fun _ hname =>
  mem_placeholders.2 (Or.inr ⟨text, htext, hname⟩)

/-- The names that need a value are names of the template. -/
theorem requiredPlaceholders_subset (t : Template) : t.requiredPlaceholders ⊆ t.placeholders := by
  intro name hname
  obtain ⟨text, htext, hname⟩ := Placeholder.mem_namesIn.1 hname
  rcases List.mem_append.1 htext with htext | htext
  · refine occurrences_subset_placeholders ?_ hname
    rcases List.mem_cons.1 htext with rfl | hkey
    · exact t.url_mem_httpTexts
    · obtain ⟨entry, hentry, rfl⟩ := List.mem_map.1 hkey
      exact key_mem_httpTexts hentry
  · exact occurrences_bodyTemplate_subset (Option.mem_toList.1 htext) hname

/-- Where no value is missing, every placeholder has an argument. -/
theorem covers_of_missing_eq_nil (h : t.missing args = []) {name : String}
    (hname : name ∈ t.placeholders) : name ∈ args.keys := by
  rw [missing, List.append_eq_nil_iff, List.filter_eq_nil_iff] at h
  rw [← OrderedMap.contains_iff]
  simpa using h.1 name hname

theorem covers_httpText (h : t.missing args = []) {text : String} (htext : text ∈ t.httpTexts) :
    args.Covers text := fun _ hname =>
  covers_of_missing_eq_nil h (occurrences_subset_placeholders htext hname)

theorem covers_bodyTemplate (h : t.missing args = []) (htext : t.bodyTemplate = some text) :
    args.Covers text := fun _ hname =>
  covers_of_missing_eq_nil h (occurrences_bodyTemplate_subset htext hname)

/-- A template with a missing value is not expanded. -/
theorem expand_of_missing (h : t.missing args ≠ []) (charset : String) :
    t.expand args charset = .error (.missingValues (t.missing args)) := by
  rw [expand, if_pos (by simpa using h)]
  rfl

/-- A template without a missing value gives its request, if the body of a body template
has bytes. -/
theorem expand_eq (h : t.missing args = []) (charset : String) :
    t.expand args charset =
      match t.bodyTemplate with
      | none => .ok (t.filledRequest args)
      | some text => (expandBody args charset text).map (withBody (t.filledRequest args)) := by
  have hurl : fill args quotedValue t.url = .ok (filled args quotedValue t.url) :=
    fill_eq (covers_httpText h t.url_mem_httpTexts)
  have hqueries : t.queries.entries.foldlM (expandQuery args) .empty =
      .ok (t.filledRequest args).queries := by
    rw [filledRequest, OrderedMap.gather, List.foldl_map]
    refine foldlM_eq_ok (fun entry hentry built => expandQuery_eq ?_ ?_ built) .empty
    · exact covers_httpText h (key_mem_httpTexts hentry)
    · exact fun text htext => covers_httpText h (value_mem_httpTexts hentry htext)
  have hheaders : t.headers.entries.foldlM (expandHeader args) .empty =
      .ok (t.filledRequest args).headers :=
    foldlM_eq_ok (fun entry hentry built => expandHeader_eq (fun text htext =>
      covers_httpText h (header_mem_httpTexts hentry htext)) built) .empty
  rw [expand, if_neg (by simp [h]), hurl]
  simp only [hqueries, hheaders, bind, Except.bind]
  cases t.bodyTemplate with
  | none => rfl
  | some text =>
    cases expandBody args charset text with
    | error e => rfl
    | ok body => rfl

/-- A template that is expanded misses no value. -/
theorem missing_of_expand {charset : String} {r : ExpandedRequest}
    (h : t.expand args charset = .ok r) : t.missing args = [] := by
  refine Decidable.byContradiction fun hmissing => ?_
  rw [expand_of_missing hmissing] at h
  exact nomatch h

/-- A template without a body template gives its request as it is, one with a body template gets
the body. -/
theorem expand_eq_ok_cases {charset : String} {r : ExpandedRequest}
    (h : t.expand args charset = .ok r) :
    (t.bodyTemplate = none ∧ r = t.filledRequest args) ∨
      ∃ text body, t.bodyTemplate = some text ∧ expandBody args charset text = .ok body ∧
        r = withBody (t.filledRequest args) body := by
  rw [expand_eq (missing_of_expand h)] at h
  split at h
  · next hbody => exact Or.inl ⟨hbody, (Except.ok.inj h).symm⟩
  · next text hbody =>
    cases hexpand : expandBody args charset text with
    | error e =>
      rw [hexpand] at h
      exact nomatch h
    | ok body =>
      rw [hexpand] at h
      exact Or.inr ⟨text, body, hbody, hexpand, (Except.ok.inj h).symm⟩

/-- The url and the queries of an expanded request. -/
theorem expand_eq_ok {charset : String} {r : ExpandedRequest}
    (h : t.expand args charset = .ok r) :
    t.missing args = [] ∧ r.url = (t.filledRequest args).url ∧
      r.queries = (t.filledRequest args).queries := by
  refine ⟨missing_of_expand h, ?_⟩
  rcases expand_eq_ok_cases h with ⟨-, rfl⟩ | ⟨text, body, -, -, rfl⟩
  · exact ⟨rfl, rfl⟩
  · exact ⟨rfl, rfl⟩

/-- No body comes of a template without one. -/
theorem body_eq_none_of_expand {charset : String} {r : ExpandedRequest}
    (h : t.expand args charset = .ok r) (hnone : t.body = none ∧ t.bodyTemplate = none) :
    r.body = none := by
  rcases expand_eq_ok_cases h with ⟨-, rfl⟩ | ⟨text, -, htext, -, -⟩
  · exact hnone.1
  · cases hnone.2.symm.trans htext

/-! ### The body -/

theorem exists_coding_of_orCoding {α : Type} {r : Except CodingError α} {e : ExpansionError}
    (h : orCoding r = .error e) : ∃ error, e = .coding error := by
  cases r with
  | error error => exact ⟨error, (Except.error.inj h).symm⟩
  | ok a => exact nomatch h

/-- Where every placeholder has an argument, a body fails only in its charset. -/
theorem exists_coding_of_expandBody (hcovers : args.Covers text) {charset : String}
    {e : ExpansionError} (h : expandBody args charset text = .error e) :
    ∃ error, e = .coding error := by
  rw [expandBody] at h
  rcases bind_eq_error.1 h with h | ⟨_, -, h⟩
  · -- The text of an argument may have no bytes; the look-up itself does not fail.
    obtain ⟨name, hname, h⟩ := Placeholder.exists_of_substituteM_eq_error h
    rw [Arguments.find_eq_ok (hcovers name hname)] at h
    exact exists_coding_of_orCoding h
  · rcases bind_eq_error.1 h with h | ⟨_, -, h⟩
    · exact exists_coding_of_orCoding h
    · exact exists_coding_of_orCoding h

/-! ### The names that are missing -/

/-- The names without an argument, each once, in the order of the template. -/
def absentNames (t : Template) (args : Arguments) : List String :=
  t.placeholders.filter fun name => name ∉ args.keys

/-- The names of the url, the query keys and the body template whose argument is none,
each once, in the order in which they come first. -/
def noneNames (t : Template) (args : Arguments) : List String :=
  (Placeholder.namesIn (t.url :: t.queries.keys ++ t.bodyTemplate.toList)).filter fun name =>
    (args.get? name).any Value.isNull

theorem mem_noneNames {name : String} :
    name ∈ t.noneNames args ↔ args.get? name = some .null ∧
      ∃ text ∈ t.url :: t.queries.keys ++ t.bodyTemplate.toList,
        name ∈ Placeholder.occurrences text := by
  rw [noneNames, List.mem_filter, Placeholder.mem_namesIn, and_comm]
  exact and_congr_left' Arguments.isNone_iff

theorem mem_absentNames {name : String} :
    name ∈ t.absentNames args ↔ name ∈ t.placeholders ∧ name ∉ args.keys := by
  rw [absentNames, List.mem_filter, decide_eq_true_eq]

/-- The missing names are those without an argument and then those that are none. -/
theorem missing_eq_append (t : Template) (args : Arguments) :
    t.missing args = t.absentNames args ++ t.noneNames args := by
  rw [missing, absentNames]
  congr 1
  refine List.filter_congr fun name _ => ?_
  rw [← Bool.not_inj_iff, Bool.not_not, Bool.eq_iff_iff, OrderedMap.contains_iff]
  simp

/-- Nothing is missing if every placeholder has an argument, and no argument is none that must
not be. -/
theorem missing_eq_nil_iff :
    t.missing args = [] ↔ (∀ name ∈ t.placeholders, name ∈ args.keys) ∧
      ∀ name ∈ t.requiredPlaceholders, args.get? name ≠ some .null := by
  rw [missing, List.append_eq_nil_iff, List.filter_eq_nil_iff, List.filter_eq_nil_iff]
  simp only [Bool.not_eq_true', Bool.not_eq_false, OrderedMap.contains_iff, Arguments.isNone_iff,
    ne_eq]

/-- Where every placeholder has an argument, only names that are none are missing. -/
theorem missing_eq (h : ∀ name ∈ t.placeholders, name ∈ args.keys) :
    t.missing args = t.noneNames args := by
  have habsent : t.absentNames args = [] := by
    rw [List.eq_nil_iff_forall_not_mem]
    intro name hname
    exact (mem_absentNames.1 hname).2 (h name (mem_absentNames.1 hname).1)
  rw [missing_eq_append, habsent, List.nil_append]

/-- No name is missing twice. -/
theorem nodup_missing (t : Template) (args : Arguments) : (t.missing args).Nodup := by
  rw [missing_eq_append, List.nodup_append]
  refine ⟨(Placeholder.nodup_namesIn _).sublist List.filter_sublist,
    (Placeholder.nodup_namesIn _).sublist List.filter_sublist, ?_⟩
  -- A name that is none has an argument.
  rintro name habsent _ hnone rfl
  refine (mem_absentNames.1 habsent).2 (Decidable.byContradiction fun hmem => ?_)
  exact nomatch (OrderedMap.get?_eq_none_iff.2 hmem).symm.trans (mem_noneNames.1 hnone).1

/-- A template without a missing value gives a request, or the text of its body has no
bytes. -/
theorem expand_cases (h : t.missing args = []) (charset : String) :
    (∃ request, t.expand args charset = .ok request) ∨
      t.bodyTemplate.isSome ∧ ∃ error, t.expand args charset = .error (.coding error) := by
  rw [expand_eq h]
  cases hbody : t.bodyTemplate with
  | none => exact Or.inl ⟨_, rfl⟩
  | some text =>
    simp only
    cases hexpand : expandBody args charset text with
    | ok body => exact Or.inl ⟨_, rfl⟩
    | error e =>
      obtain ⟨error, rfl⟩ := exists_coding_of_expandBody (covers_bodyTemplate h hbody) hexpand
      exact Or.inr ⟨rfl, error, rfl⟩

/-- Where no value is missing, a template fails only in the charset of its body. -/
theorem exists_coding_of_expand {charset : String}
    (h : t.missing args = []) {e : ExpansionError} (he : t.expand args charset = .error e) :
    ∃ error, e = .coding error := by
  rcases expand_cases h charset with ⟨request, hok⟩ | ⟨-, error, herror⟩
  · exact nomatch hok.symm.trans he
  · exact ⟨error, Except.error.inj (he.symm.trans herror)⟩

end Template

end HttpInterface
