import HttpInterface.Proofs.Expansion.Alike
import HttpInterface.Proofs.Expansion.Values

/-!
# `HttpInterface.Proofs.Expansion.Optional`: leaving an argument out

A name that stands only in query and header values is optional: its argument may be none. The
values that mention it are then dropped, one by one, and nothing else of the request changes. So the
template might as well be without these values (`Template.without`), as
`expand_insert_null` states. `Template.keep` is any such choice of values: those that mention a name
bound to none can be taken out before a template is expanded (`expand_keep`).

The names that must not be none are asked for before any value is dropped. A query key whose values
all mention the name gives nothing, but its own names are still asked for. There the template
without the values is less strict, and the theorem says so.
-/

set_option autoImplicit false

namespace HttpInterface

namespace OrderedMap

variable {κ α : Type}

/-- The values with a property. A key without such a value is left out. -/
def filterValues (p : α → Bool) (m : OrderedMap κ (List α)) : OrderedMap κ (List α) where
  entries := (m.entries.map fun e => (e.1, e.2.filter p)).filter fun e => !e.2.isEmpty
  nodup_keys := by
    have hkeys : ((m.entries.map fun e => (e.1, e.2.filter p)).map Prod.fst).Nodup := by
      rw [List.map_map]
      exact m.nodup_keys
    exact hkeys.sublist (List.filter_sublist.map _)

variable {p : α → Bool} {m : OrderedMap κ (List α)}

theorem noneEmpty_filterValues : (m.filterValues p).NoneEmpty := by
  intro e he
  simpa using (List.mem_filter.1 he).2

/-- The values that are left are those with the property, in their order. -/
theorem pairs_filterValues : (m.filterValues p).pairs = m.pairs.filter fun e => p e.2 := by
  show ((m.entries.map fun e => (e.1, e.2.filter p)).filter fun e => !e.2.isEmpty).flatMap
      (fun e => e.2.map fun v => (e.1, v)) =
    (m.entries.flatMap fun e => e.2.map fun v => (e.1, v)).filter fun e => p e.2
  induction m.entries with
  | nil => rfl
  | cons e rest ih =>
    rw [List.map_cons, List.flatMap_cons, List.filter_append, ← ih, List.filter_map,
      Function.comp_def]
    -- A key that is left out has no values, so it has no pairs either.
    by_cases hempty : e.2.filter p = []
    · simp [hempty]
    · rw [List.filter_cons_of_pos (by simpa using hempty), List.flatMap_cons]

/-- The keys that are left are those with such a value. -/
theorem keys_filterValues :
    (m.filterValues p).keys =
      (m.entries.filter fun e => !(e.2.filter p).isEmpty).map Prod.fst := by
  show ((m.entries.map fun e => (e.1, e.2.filter p)).filter fun e => !e.2.isEmpty).map Prod.fst = _
  rw [List.filter_map, List.map_map]
  rfl

theorem keys_filterValues_subset : (m.filterValues p).keys ⊆ m.keys := by
  rw [keys_filterValues]
  exact List.map_subset _ (List.filter_subset_self _)

end OrderedMap

namespace Template

/-- A template with those of its query and header values that have a property. Flags stay, and
keys that have no value left go. -/
def keep (t : Template) (p : String → Bool) : Template :=
  { t with
    queries := t.queries.filterValues fun value => value.all p
    headers := t.headers.filterValues p }

variable {t : Template} {p : String → Bool} {args : Arguments}

/-! ### Its names -/

/-- A text of what is left is the url, a key, or a value with the property. -/
theorem mem_httpTexts_keep {text : String} (h : text ∈ (t.keep p).httpTexts) :
    text ∈ t.httpTexts ∧ (text ∈ t.url :: t.queries.keys ∨ p text = true) := by
  rw [mem_httpTexts OrderedMap.noneEmpty_filterValues] at h
  rcases h with rfl | ⟨e, he, htext⟩ | ⟨e, he, rfl⟩
  · exact ⟨t.url_mem_httpTexts, Or.inl List.mem_cons_self⟩
  · rw [keep, OrderedMap.pairs_filterValues, List.mem_filter] at he
    obtain ⟨values, hentry, hvalue⟩ := OrderedMap.mem_pairs.1 he.1
    rcases htext with rfl | htext
    · exact ⟨key_mem_httpTexts hentry,
        Or.inl (List.mem_cons_of_mem _ (List.mem_map.2 ⟨_, hentry, rfl⟩))⟩
    · rw [htext] at hvalue he
      exact ⟨value_mem_httpTexts hentry hvalue, Or.inr (by simpa using he.2)⟩
  · rw [keep, OrderedMap.pairs_filterValues, List.mem_filter] at he
    obtain ⟨texts, hentry, htext⟩ := OrderedMap.mem_pairs.1 he.1
    exact ⟨header_mem_httpTexts hentry htext, Or.inr he.2⟩

/-- A name of what is left stands in the url, a query key or the body template, or in a text with
the property. -/
theorem mem_placeholders_keep {name : String} (h : name ∈ (t.keep p).placeholders) :
    name ∈ t.placeholders ∧
      (name ∈ t.requiredPlaceholders ∨
        ∃ text, p text = true ∧ name ∈ Placeholder.occurrences text) := by
  rcases mem_placeholders.1 h with h | ⟨text, hbody, hname⟩
  · obtain ⟨text, htext, hname⟩ := mem_httpPlaceholders.1 h
    obtain ⟨htext, hplace⟩ := mem_httpTexts_keep htext
    refine ⟨occurrences_subset_placeholders htext hname, ?_⟩
    rcases hplace with hplace | hp
    · exact Or.inl (Placeholder.mem_namesIn.2 ⟨text, List.mem_append_left _ hplace, hname⟩)
    · exact Or.inr ⟨text, hp, hname⟩
  · have hbody : t.bodyTemplate = some text := hbody
    refine ⟨occurrences_bodyTemplate_subset hbody hname, Or.inl ?_⟩
    exact Placeholder.mem_namesIn.2
      ⟨text, List.mem_append_right _ (Option.mem_toList.2 hbody), hname⟩

theorem requiredPlaceholders_keep_subset :
    (t.keep p).requiredPlaceholders ⊆ t.requiredPlaceholders := by
  intro name h
  obtain ⟨text, htext, hname⟩ := Placeholder.mem_namesIn.1 h
  refine Placeholder.mem_namesIn.2 ⟨text, ?_, hname⟩
  rcases List.mem_append.1 htext with htext | htext
  · refine List.mem_append_left _ ?_
    rcases List.mem_cons.1 htext with rfl | hkey
    · exact List.mem_cons_self
    · exact List.mem_cons_of_mem _ (OrderedMap.keys_filterValues_subset hkey)
  · exact List.mem_append_right _ htext

theorem missing_keep (h : t.missing args = []) : (t.keep p).missing args = [] := by
  rw [missing_eq_nil_iff] at h ⊢
  exact ⟨fun name hname => h.1 name (mem_placeholders_keep hname).1,
    fun name hname => h.2 name (requiredPlaceholders_keep_subset hname)⟩

/-! ### Its request -/

/-- A value that mentions a name bound to none gives nothing. -/
theorem fannedOut_of_null {render : Value → String} {text name : String}
    (hname : name ∈ Placeholder.occurrences text) (hnull : args.value name = .null) :
    fannedOut args render text = [] := by
  have hnone : filledUnlessNone args render text = [] := by
    rw [filledUnlessNone, if_pos]
    exact List.any_eq_true.2 ⟨name, Placeholder.mem_names.2 hname, by rw [hnull]; rfl⟩
  rw [fannedOut]
  split
  · exact hnone
  · next name' honly =>
    rw [Placeholder.occurrences_of_only? honly, List.mem_singleton] at hname
    subst hname
    rw [hnull]
    exact hnone

section

variable (hnone : ∀ text, p text = false →
  ∃ name ∈ Placeholder.occurrences text, args.value name = .null)
include hnone

theorem filledRequest_keep : (t.keep p).filledRequest args = t.filledRequest args := by
  have hqueries : ((t.keep p).filledRequest args).queries = (t.filledRequest args).queries := by
    rw [queries_filledRequest, queries_filledRequest, keep, OrderedMap.pairs_filterValues,
      flatMap_filter_of_eq_nil]
    rintro ⟨key, value⟩ - hp
    cases value with
    | none => exact nomatch hp
    | some text =>
      obtain ⟨name, hname, hnull⟩ := hnone text hp
      simp [queryValues, fannedOut_of_null hname hnull]
  have hheaders : ((t.keep p).filledRequest args).headers = (t.filledRequest args).headers := by
    rw [headers_filledRequest, headers_filledRequest, keep, OrderedMap.pairs_filterValues,
      flatMap_filter_of_eq_nil]
    rintro ⟨key, text⟩ - hp
    obtain ⟨name, hname, hnull⟩ := hnone text hp
    simp [fannedOut_of_null hname hnull]
  rw [filledRequest, filledRequest, ExpandedRequest.mk.injEq]
  exact ⟨rfl, rfl, hqueries, hheaders, rfl⟩

/-- Where no value is missing, values that mention a name bound to none can be taken out
before. -/
theorem expand_keep (hmissing : t.missing args = []) (charset : String) :
    (t.keep p).expand args charset = t.expand args charset := by
  rw [expand_eq hmissing, expand_eq (missing_keep hmissing), filledRequest_keep hnone]
  rfl

end

end Template

/-! ### An argument that is none -/

namespace Template

/-- The template without the query and header values that mention a name. Keys that have no value
left go with them. -/
def without (t : Template) (x : String) : Template :=
  t.keep fun text => !(Placeholder.occurrences text).contains x

/-- A query key has only values that mention a name. -/
def Emptied (t : Template) (x key : String) : Prop :=
  ∃ values, (key, values) ∈ t.queries.entries ∧
    ∀ value ∈ values, ∃ text, value = some text ∧ x ∈ Placeholder.occurrences text

variable {t : Template} {args : Arguments} {x : String}

theorem not_mem_placeholders_without (hx : x ∉ t.requiredPlaceholders) :
    x ∉ (t.without x).placeholders := by
  intro hmem
  rcases (mem_placeholders_keep hmem).2 with hrequired | ⟨text, hkeep, hname⟩
  · exact hx hrequired
  · have hcontains : (Placeholder.occurrences text).contains x = true :=
      List.contains_iff_mem.2 hname
    rw [hcontains] at hkeep
    exact nomatch hkeep

/-- Where the name does not stand, its argument does not count. -/
theorem expand_without_insert (hx : x ∉ t.requiredPlaceholders) (v : Value) (charset : String) :
    (t.without x).expand (args.insert x v) charset = (t.without x).expand args charset := by
  refine expand_alike (Arguments.alikeOn_of_get? fun name hname => ?_) charset
  rw [OrderedMap.get?_insert, if_neg]
  rintro rfl
  exact not_mem_placeholders_without hx hname

/-- A query key that goes has only values that mention the name. -/
theorem emptied_of_filter {entry : String × List (Option String)}
    (hentry : entry ∈ t.queries.entries) (hempty : (entry.2.filter fun value =>
      value.all fun text => !(Placeholder.occurrences text).contains x).isEmpty = true) :
    t.Emptied x entry.1 := by
  refine ⟨entry.2, hentry, fun value hvalue => ?_⟩
  have hgone := List.filter_eq_nil_iff.1 (List.isEmpty_iff.1 hempty) value hvalue
  cases value with
  | none => exact absurd rfl hgone
  | some text => exact ⟨text, rfl, by simpa using hgone⟩

/-- The names that are none are found text by text. -/
theorem noneNames_eq (t : Template) (args : Arguments) :
    t.noneNames args =
      ((t.url :: t.queries.keys ++ t.bodyTemplate.toList).flatMap fun text =>
        (Placeholder.occurrences text).filter args.isNone).eraseDups := by
  rw [noneNames, Placeholder.namesIn, filter_eraseDups, List.filter_flatMap]
  rfl

/-- If no query key is emptied whose names are none, the template without the values asks for the
same names. -/
theorem noneNames_without
    (hkeys : ∀ key, t.Emptied x key → ∀ name ∈ Placeholder.occurrences key,
      args.get? name ≠ some .null) :
    (t.without x).noneNames args = t.noneNames args := by
  have hqueries : ((t.without x).queries.keys.flatMap fun key =>
      (Placeholder.occurrences key).filter args.isNone) =
      t.queries.keys.flatMap fun key => (Placeholder.occurrences key).filter args.isNone := by
    rw [without, keep, OrderedMap.keys_filterValues, OrderedMap.keys, List.flatMap_map,
      List.flatMap_map]
    refine flatMap_filter_of_eq_nil fun entry hentry hgone => ?_
    have hemptied := emptied_of_filter hentry (by simpa using hgone)
    exact List.filter_eq_nil_iff.2 fun name hname hnone =>
      hkeys entry.1 hemptied name hname (Arguments.isNone_iff.1 hnone)
  rw [noneNames_eq, noneNames_eq, List.cons_append, List.cons_append, List.flatMap_cons,
    List.flatMap_cons, List.flatMap_append, List.flatMap_append, hqueries]
  rfl

/-- An optional argument that is none is asked for nowhere. -/
theorem noneNames_insert (hx : x ∉ t.requiredPlaceholders) (v : Value) :
    t.noneNames (args.insert x v) = t.noneNames args := by
  refine List.filter_congr fun name hname => ?_
  rw [OrderedMap.get?_insert, if_neg]
  rintro rfl
  exact hx hname

/-- An optional argument may be none where the values that mention it may be taken out of the
template. A template whose keys go with their values asks for the names of these keys, unlike the
template without them. -/
theorem expand_insert_null (t : Template) (args : Arguments) (x charset : String)
    (hargs : ∀ name ∈ t.placeholders, name ∈ args.keys) (hx : x ∉ t.requiredPlaceholders) :
    ((∀ key, t.Emptied x key → ∀ name ∈ Placeholder.occurrences key,
        args.get? name ≠ some .null) →
      t.expand (args.insert x .null) charset = (t.without x).expand args charset) ∧
    ∀ key, t.Emptied x key → ∀ name ∈ Placeholder.occurrences key, args.get? name = some .null →
      ∃ names, t.expand (args.insert x .null) charset = .error (.missingValues names) ∧
        name ∈ names := by
  have hmissing : t.missing (args.insert x .null) = t.noneNames args := by
    rw [missing_eq, noneNames_insert hx]
    intro name hname
    rw [OrderedMap.keys_insert]
    split
    · exact hargs name hname
    · exact List.mem_append_left _ (hargs name hname)
  refine ⟨fun hkeys => ?_, ?_⟩
  · by_cases hnone : t.noneNames args = []
    · -- Nothing is missing, so the values can be taken out before.
      rw [← expand_without_insert hx .null charset, without, expand_keep ?_ (hmissing.trans hnone)]
      intro text hgone
      have hget : (args.insert x .null).get? x = some .null := by
        rw [OrderedMap.get?_insert, if_pos rfl]
      exact ⟨x, by simpa using hgone, Arguments.value_of_get? hget⟩
    · -- Names are missing, and the template without the values misses the same.
      have hwithout : (t.without x).missing args = t.noneNames args := by
        rw [missing_eq, noneNames_without hkeys]
        exact fun name hname => hargs name (mem_placeholders_keep hname).1
      rw [expand_of_missing (hmissing ▸ hnone), hmissing, expand_of_missing (hwithout ▸ hnone),
        hwithout]
  · rintro key ⟨values, hentry, -⟩ name hname hnull
    have hmem : name ∈ t.noneNames args := by
      refine mem_noneNames.2 ⟨hnull, key, List.mem_append_left _ (List.mem_cons_of_mem _ ?_), hname⟩
      exact List.mem_map.2 ⟨_, hentry, rfl⟩
    have hne : t.missing (args.insert x .null) ≠ [] := hmissing ▸ List.ne_nil_of_mem hmem
    exact ⟨_, expand_of_missing hne charset, hmissing ▸ hmem⟩

/-- A listing with an optional page, and with a key that goes with its only value. -/
def listing : Template where
  method := "GET"
  url := "/{shop}/items"
  queries := .ofList [("page", [some "{page}"]),
    ("{key}", [some "{page}-{tags}", some "{tags}", none]), ("at", [some "{page}{page}"])]
  headers := .ofList [("X-Page", ["{page}", "first"])]

def listed : Arguments :=
  .ofList [("shop", .text "a/b"), ("page", .int 2), ("key", .text "at"),
    ("tags", .list [.int 1, .null])]

theorem expand_insert_null_listing :
    (∀ name ∈ listing.placeholders, name ∈ listed.keys) ∧
      "page" ∉ listing.requiredPlaceholders ∧
      (∀ key, listing.Emptied "page" key → ∀ name ∈ Placeholder.occurrences key,
        listed.get? name ≠ some .null) ∧
      listing.expand (listed.insert "page" .null) "utf-8" =
        (listing.without "page").expand listed "utf-8" ∧
      (listing.without "page").queries.entries = [("{key}", [some "{tags}", none])] := by
  have hargs : ∀ name ∈ listing.placeholders, name ∈ listed.keys := by decide
  have hpage : "page" ∉ listing.requiredPlaceholders := by decide
  have hkeys : ∀ key, listing.Emptied "page" key → ∀ name ∈ Placeholder.occurrences key,
      listed.get? name ≠ some .null := by
    intro _ _ name _ hnull
    have hentry := OrderedMap.get?_eq_some_iff.1 hnull
    simp [show listed.entries = [("shop", .text "a/b"), ("page", .int 2), ("key", .text "at"),
      ("tags", .list [.int 1, .null])] from rfl] at hentry
  exact ⟨hargs, hpage, hkeys,
    (expand_insert_null listing listed "page" "utf-8" hargs hpage).1 hkeys, rfl⟩

/-- Items by a tag, under a key that is an argument too. -/
def tagged : Template where
  method := "GET"
  url := "/items"
  queries := .ofList [("{key}", [some "{tag}"])]

def keyless : Arguments :=
  .ofList [("key", .null), ("tag", .text "new")]

/-- The key that goes with its value is still asked for. -/
theorem expand_insert_null_tagged :
    (∀ name ∈ tagged.placeholders, name ∈ keyless.keys) ∧ "tag" ∉ tagged.requiredPlaceholders ∧
      tagged.expand (keyless.insert "tag" .null) "utf-8" = .error (.missingValues ["key"]) ∧
      (tagged.without "tag").expand keyless "utf-8" = .ok { method := "GET", url := "/items" } := by
  refine ⟨?_, ?_, rfl, rfl⟩
  · decide
  · decide

end Template

end HttpInterface
