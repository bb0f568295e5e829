import HttpInterface.Proofs.Expansion
import HttpInterface.Proofs.OrderedMap.Grouping
import Mathlib.Data.List.Forall2

/-!
# `HttpInterface.Proofs.Expansion.Values`: where the values of a request come from

`Gives` says which texts one value of a query or of a header gives, without saying how they
are found: those of the elements of a list that stands alone, no text if a name is bound to
none, or the filled text. The queries and the headers of a request are then rows, one for each
value of the template in its order, and a row holds what its value gives.

`arranged_of_expand` says that the request has these rows and nothing else (`Arranged`). Query
keys that become the same text share their rows, and a row without values leaves nothing behind.
-/

set_option autoImplicit false

namespace HttpInterface

namespace Value

/-- The texts of the elements that are not none, one after the other. -/
theorem requestTexts_eq (items : List Value) :
    requestTexts items = (items.filter fun item => !item.isNull).map requestText := by
  induction items with
  | nil => rfl
  | cons item rest ih =>
    rw [requestTexts, ih]
    cases hnull : item.isNull <;> simp [hnull]

/-- A list or a tuple within a longer text is the texts of its elements with commas between
them, those that are none left out. -/
theorem requestText_items {v : Value} {items : List Value} (h : v.items? = some items) :
    v.requestText =
      ",".intercalate ((items.filter fun item => !item.isNull).map requestText) := by
  cases v with
  | list vs =>
    obtain rfl : vs = items := Option.some.inj h
    rw [requestText, requestTexts_eq]
  | tuple vs =>
    obtain rfl : vs = items := Option.some.inj h
    rw [requestText, requestTexts_eq]
  | _ => exact nomatch h

end Value

namespace Template

/-- A text is one placeholder and nothing else, and its argument is a list or a tuple with these
elements. -/
def Spread (args : Arguments) (text : String) (items : List Value) : Prop :=
  ∃ name v, Placeholder.only? text = some name ∧ args.get? name = some v ∧ v.items? = some items

/-- The texts that a value gives, where `render` writes an argument. -/
inductive Gives (args : Arguments) (render : Value → String) (text : String) :
    List String → Prop where
  /-- A list that stands alone gives a text for each element that is not none, in order. -/
  | elements {items : List Value} (hspread : Spread args text items) :
      Gives args render text ((items.filter fun item => !item.isNull).map render)
  /-- A value that mentions a name bound to none gives nothing. -/
  | nothing (halone : ∀ items, ¬Spread args text items) {name : String}
      (hname : name ∈ Placeholder.occurrences text) (hnone : args.get? name = some .null) :
      Gives args render text []
  /-- Any other value gives one text, its placeholders replaced. -/
  | whole (halone : ∀ items, ¬Spread args text items)
      (hall : ∀ name ∈ Placeholder.occurrences text,
        ∃ v, args.get? name = some v ∧ v ≠ .null) :
      Gives args render text [filled args render text]

/-- The values that a query value gives: a flag gives a flag. -/
inductive QueryGives (args : Arguments) : Option String → List (Option String) → Prop where
  | flag : QueryGives args none [none]
  | texts {text : String} {vs : List String} (h : Gives args quotedValue text vs) :
      QueryGives args (some text) (vs.map some)

/-- The values of a request are what the values of its template give, in their order. -/
structure Arranged (t : Template) (args : Arguments) (r : ExpandedRequest) : Prop where
  /-- Every query value gives its values under the text that its key becomes. -/
  queries : ∃ rows : List (String × List (Option String)),
    List.Forall₂ (fun e row => row.1 = filled args quotedValue e.1 ∧ QueryGives args e.2 row.2)
      t.queries.pairs rows ∧
    r.queries.Groups rows
  /-- Every header value gives its values under the name of the header. A body that is made from
  a body template adds its length, in the place of any other. -/
  headers : ∃ (rows : List (String × List String)) (headers : OrderedMap String (List String)),
    List.Forall₂ (fun e row => row.1 = e.1 ∧ Gives args Value.requestText e.2 row.2)
      t.headers.pairs rows ∧
    headers.Groups rows ∧
    (t.bodyTemplate = none → r.headers = headers) ∧
    (t.bodyTemplate ≠ none → ∃ body, r.body = some body ∧
      r.headers = headers.insert Header.contentLength [toString body.length])
  /-- A list or a tuple within a longer text is its elements with commas between them, those that
  are none left out. -/
  joined : ∀ (v : Value) (items : List Value), v.items? = some items →
    v.requestText = ",".intercalate ((items.filter fun item => !item.isNull).map Value.requestText)

variable {t : Template} {args : Arguments} {render : Value → String} {text : String}

/-! ### One value -/

/-- A list does not stand alone where the text is longer, or where its argument is no list. -/
theorem not_spread (h : ∀ name, Placeholder.only? text = some name →
    (args.value name).items? = none) (items : List Value) : ¬Spread args text items := by
  rintro ⟨name, v, honly, hv, hitems⟩
  have hnone := h name honly
  rw [Arguments.value_of_get? hv, hitems] at hnone
  exact nomatch hnone

theorem gives_filledUnlessNone (hcovers : args.Covers text)
    (halone : ∀ items, ¬Spread args text items) :
    Gives args render text (filledUnlessNone args render text) := by
  rw [filledUnlessNone]
  split
  · -- One of the names is none.
    next hany =>
    obtain ⟨name, hname, hnull⟩ := List.any_eq_true.1 hany
    have hmem := Placeholder.mem_names.1 hname
    obtain ⟨v, hv⟩ := OrderedMap.exists_get?_of_mem_keys (hcovers name hmem)
    refine .nothing halone hmem (Arguments.isNone_iff.1 ?_)
    rw [Arguments.isNone, hv]
    rwa [Arguments.value_of_get? hv] at hnull
  · next hany =>
    refine .whole halone fun name hmem => ?_
    obtain ⟨v, hv⟩ := OrderedMap.exists_get?_of_mem_keys (hcovers name hmem)
    refine ⟨v, hv, ?_⟩
    rintro rfl
    exact hany (List.any_eq_true.2 ⟨name, Placeholder.mem_names.2 hmem,
      by rw [Arguments.value_of_get? hv]; rfl⟩)

/-- Where every placeholder has an argument, a value gives what it is expanded to. -/
theorem gives_fannedOut (hcovers : args.Covers text) :
    Gives args render text (fannedOut args render text) := by
  rw [fannedOut]
  split
  · -- The text is more than a placeholder, so a list within it is written as one text.
    next honly =>
    exact gives_filledUnlessNone hcovers
      (not_spread fun name hname => by cases honly.symm.trans hname)
  · next name honly =>
    split
    · next items hitems =>
      have hname : name ∈ args.keys := hcovers name <| by
        rw [Placeholder.occurrences_of_only? honly]
        exact List.mem_singleton.2 rfl
      obtain ⟨v, hv⟩ := OrderedMap.exists_get?_of_mem_keys hname
      exact .elements ⟨name, v, honly, hv, Arguments.value_of_get? hv ▸ hitems⟩
    · next hitems =>
      refine gives_filledUnlessNone hcovers (not_spread fun name' hname' => ?_)
      obtain rfl : name = name' := Option.some.inj (honly.symm.trans hname')
      exact hitems

theorem queryGives_queryValues {value : Option String}
    (hcovers : ∀ text ∈ value, args.Covers text) :
    QueryGives args value (queryValues args value) := by
  cases value with
  | none => exact .flag
  | some text => exact .texts (gives_fannedOut (hcovers text rfl))

/-! ### All values -/

/-- The queries of a filled template, entry by entry. -/
theorem queries_filledRequest (t : Template) (args : Arguments) :
    (t.filledRequest args).queries =
      OrderedMap.empty.pushAll (t.queries.pairs.flatMap fun e =>
        (queryValues args e.2).map fun v => (filled args quotedValue e.1, v)) := by
  show OrderedMap.empty.gather (t.queries.entries.map (queryRow args)) = _
  rw [OrderedMap.gather_eq_pushAll, List.flatMap_map, OrderedMap.pairs, List.flatMap_assoc]
  simp only [queryRow, List.map_flatMap, List.flatMap_map]

/-- The headers of a filled template, value by value. -/
theorem headers_filledRequest (t : Template) (args : Arguments) :
    (t.filledRequest args).headers =
      OrderedMap.empty.pushAll (t.headers.pairs.flatMap fun e =>
        (fannedOut args Value.requestText e.2).map fun v => (e.1, v)) := by
  -- No two headers of a template have one name, so gathering them changes nothing.
  have hvalues : (t.filledRequest args).headers.NoneEmpty := by
    intro e he
    rw [entries_headers] at he
    simpa using (List.mem_filter.1 he).2
  rw [← OrderedMap.gather_entries hvalues, OrderedMap.gather_eq_pushAll]
  exact congrArg OrderedMap.empty.pushAll (pairs_headers t args)

/-- What the query values of a template give, each under the text that its key becomes. -/
def queryRows (t : Template) (args : Arguments) : List (String × List (Option String)) :=
  t.queries.pairs.map fun e => (filled args quotedValue e.1, queryValues args e.2)

/-- What the header values of a template give, each under its name. -/
def headerRows (t : Template) (args : Arguments) : List (String × List String) :=
  t.headers.pairs.map fun e => (e.1, fannedOut args Value.requestText e.2)

theorem queries_eq_gather (t : Template) (args : Arguments) :
    (t.filledRequest args).queries = OrderedMap.empty.gather (t.queryRows args) := by
  rw [queries_filledRequest, queryRows, OrderedMap.gather_eq_pushAll, List.flatMap_map]

theorem headers_eq_gather (t : Template) (args : Arguments) :
    (t.filledRequest args).headers = OrderedMap.empty.gather (t.headerRows args) := by
  rw [headers_filledRequest, headerRows, OrderedMap.gather_eq_pushAll, List.flatMap_map]

theorem forall₂_queryRows (hmissing : t.missing args = []) :
    List.Forall₂ (fun e row => row.1 = filled args quotedValue e.1 ∧ QueryGives args e.2 row.2)
      t.queries.pairs (t.queryRows args) := by
  rw [queryRows, List.forall₂_map_right_iff, List.forall₂_same]
  intro e he
  obtain ⟨values, hentry, hvalue⟩ := OrderedMap.mem_pairs.1 he
  refine ⟨rfl, queryGives_queryValues fun text htext => ?_⟩
  exact covers_httpText hmissing (value_mem_httpTexts hentry (Option.mem_def.1 htext ▸ hvalue))

theorem forall₂_headerRows (hmissing : t.missing args = []) :
    List.Forall₂ (fun e row => row.1 = e.1 ∧ Gives args Value.requestText e.2 row.2)
      t.headers.pairs (t.headerRows args) := by
  rw [headerRows, List.forall₂_map_right_iff, List.forall₂_same]
  intro e he
  obtain ⟨texts, hentry, htext⟩ := OrderedMap.mem_pairs.1 he
  exact ⟨rfl, gives_fannedOut (covers_httpText hmissing (header_mem_httpTexts hentry htext))⟩

end Template

/-- Expanding loses no value, doubles none, and keeps them in the order of the template. -/
theorem Template.arranged_of_expand {t : Template} {args : Arguments} {charset : String}
    {r : ExpandedRequest} (h : t.expand args charset = .ok r) : t.Arranged args r where
  queries := by
    refine ⟨t.queryRows args, forall₂_queryRows (missing_of_expand h), ?_⟩
    rw [(expand_eq_ok h).2.2, queries_eq_gather]
    exact OrderedMap.groups_gather _
  headers := by
    -- The length of a body is put in last, so the rows are those of the headers before.
    refine ⟨t.headerRows args, (t.filledRequest args).headers,
      forall₂_headerRows (missing_of_expand h), ?_, ?_⟩
    · rw [headers_eq_gather]
      exact OrderedMap.groups_gather _
    · rcases expand_eq_ok_cases h with ⟨hbody, rfl⟩ | ⟨text, body, hbody, -, rfl⟩
      · exact ⟨fun _ => rfl, fun hne => absurd hbody hne⟩
      · exact ⟨fun hnone => (nomatch hbody.symm.trans hnone), fun _ => ⟨body, rfl, rfl⟩⟩
  joined _ _ := Value.requestText_items

/-- A search. Both keys of its queries become `tag`. -/
def search : Template where
  method := "POST"
  queries := .ofList [("{key}", [some "{tags}", some "old:{tags}", none, some "{page}"]),
    ("sort", [some "{page}"]), ("tag", [some "{tags}{page}", some "x"])]
  headers := .ofList [("Accept", ["{types}", "*/{page}", "{key}/é"]),
    ("Content-Length", ["{types}"]), ("X-Page", ["{page}"])]
  bodyTemplate := some "{key}"

/-- A list with an element that is none, a tuple, and no page. -/
def searched : Arguments :=
  .ofList [("key", .text "tag"), ("tags", .list [.text "a b", .null, .int 2]), ("page", .null),
    ("types", .tuple [.text "text/plain", .text "image/*"])]

theorem arranged_search :
    ∃ r, search.expand searched "utf-8" = .ok r ∧
      r.queries.entries =
        [("tag", [some "a%20b", some "2", some "old:a%20b%2C2", none, some "x"])] ∧
      r.headers.entries = [("Accept", ["text/plain", "image/*", "tag/é"]),
        ("Content-Length", ["3"])] ∧
      search.Arranged searched r := by
  obtain ⟨r, hexpand, hqueries, hheaders⟩ : ∃ r, search.expand searched "utf-8" = .ok r ∧
      r.queries.entries =
        [("tag", [some "a%20b", some "2", some "old:a%20b%2C2", none, some "x"])] ∧
      r.headers.entries = [("Accept", ["text/plain", "image/*", "tag/é"]),
        ("Content-Length", ["3"])] :=
    ⟨_, rfl, rfl, rfl⟩
  exact ⟨r, hexpand, hqueries, hheaders, Template.arranged_of_expand hexpand⟩

end HttpInterface
