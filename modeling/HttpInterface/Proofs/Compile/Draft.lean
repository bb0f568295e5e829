import HttpInterface.Compile
import HttpInterface.Proofs.Draft

/-!
# `HttpInterface.Proofs.Compile.Draft`: from a declaration to its template

A declaration makes a draft in three steps that may fail: its request line needs a
verb, each header a name and a colon, and a body that is text needs bytes in the
charset. `draft_eq_ok` says what a draft that was made holds, and `draft_eq_error`
which of the steps failed and where.

`httpSites` and `sites` are the texts of a declaration in which placeholders may
stand, read off the declaration itself. `mem_httpPlaceholders_draft` and
`mem_placeholders_draft` show that the names of the template are the names of these
texts. A header `Content-Length` is no such text where a body is declared: the body
has taken its place.
-/

set_option autoImplicit false

namespace HttpInterface.Declaration

/-- The request line, taken apart. -/
def line? (d : Declaration) : Option RequestLine :=
  d.requestLine.bind RequestLine.parse?

/-- The declared headers, each taken apart. -/
def parsedHeaders (d : Declaration) : List Header :=
  d.headers.filterMap Header.parse?

/-- The texts of the url, the queries and the headers. -/
def httpSites (d : Declaration) (line : RequestLine) : List String :=
  let target := PathAndQuery.parse line.target
  let headers := d.parsedHeaders.filter fun h => d.body.isNone || h.name != Header.contentLength
  target.path :: target.entries.flatMap (fun e => e.1 :: e.2.toList) ++ headers.map Header.value

/-- The texts of the url, the queries, the headers and the body. -/
def sites (d : Declaration) (line : RequestLine) : List String :=
  d.httpSites line ++ d.body.toList

/-- The draft that the request line and the headers make. -/
def headedDraft (d : Declaration) (charset : String) (line : RequestLine) : Draft where
  charset := charset
  method := some line.verb
  url := (PathAndQuery.parse line.target).path
  queries := OrderedMap.empty.pushAll (PathAndQuery.parse line.target).entries
  headers := OrderedMap.empty.pushAll (d.parsedHeaders.map fun h => (h.name, h.value))

/-! ### The three steps -/

theorem requestLineDraft_of_line? {d : Declaration} {line : RequestLine} (h : d.line? = some line)
    (charset : String) :
    d.requestLineDraft charset =
      .ok (({ charset : Draft }).setMethod line.verb |>.append line.target) := by
  rw [requestLineDraft, show d.requestLine.bind RequestLine.parse? = some line from h]

/-- Headers that are all well-formed are all added. -/
theorem foldlM_addDeclaredHeader (d : Declaration) {headers : List String}
    (h : ∀ text ∈ headers, (Header.parse? text).isSome) (draft : Draft) :
    headers.foldlM d.addDeclaredHeader draft =
      .ok { draft with
        headers := draft.headers.pushAll
          ((headers.filterMap Header.parse?).map fun h => (h.name, h.value)) } := by
  -- Every header changes the draft that the next one is added to.
  induction headers generalizing draft with
  | nil => rfl
  | cons text rest ih =>
    obtain ⟨parsed, hparsed⟩ := Option.isSome_iff_exists.1 (h text List.mem_cons_self)
    rw [List.foldlM_cons, addDeclaredHeader, hparsed, List.filterMap_cons, hparsed]
    exact ih (fun t ht => h t (List.mem_cons_of_mem _ ht))
      (draft.addHeader parsed.name parsed.value)

/-- A header that is added is well-formed. -/
theorem isSome_of_addDeclaredHeader {d : Declaration} {draft draft' : Draft} {text : String}
    (h : d.addDeclaredHeader draft text = .ok draft') : (Header.parse? text).isSome := by
  rw [addDeclaredHeader] at h
  split at h
  · exact nomatch h
  · next hparsed => rw [hparsed]; rfl

theorem isSome_of_foldlM_addDeclaredHeader {d : Declaration} {headers : List String}
    {draft draft' : Draft} (h : headers.foldlM d.addDeclaredHeader draft = .ok draft') :
    ∀ text ∈ headers, (Header.parse? text).isSome := by
  induction headers generalizing draft with
  | nil => simp
  | cons text rest ih =>
    rw [List.foldlM_cons] at h
    obtain ⟨draft₁, hfirst, hrest⟩ := bind_eq_ok.1 h
    intro t ht
    rcases List.mem_cons.1 ht with rfl | ht
    · exact isSome_of_addDeclaredHeader hfirst
    · exact ih hrest t ht

/-- Where the request line and the headers are well-formed, only the body is left to
set. -/
theorem draft_of_headers {d : Declaration} {line : RequestLine} (hline : d.line? = some line)
    (hheaders : ∀ text ∈ d.headers, (Header.parse? text).isSome) (charset : String) :
    d.draft charset = d.setDeclaredBody (d.headedDraft charset line) := by
  have hfold := foldlM_addDeclaredHeader d hheaders
    (({ charset : Draft }).setMethod line.verb |>.append line.target)
  rw [draft, requestLineDraft_of_line? hline]
  show (d.headers.foldlM d.addDeclaredHeader _ >>= d.setDeclaredBody) = _
  rw [hfold, Draft.append_eq]
  show d.setDeclaredBody _ = d.setDeclaredBody _
  refine congrArg d.setDeclaredBody ?_
  simp [headedDraft, Draft.setMethod, parsedHeaders]

theorem draft_eq_ok {d : Declaration} {charset : String} {draft : Draft}
    (h : d.draft charset = .ok draft) :
    ∃ line, d.line? = some line ∧ (∀ text ∈ d.headers, (Header.parse? text).isSome) ∧
      d.setDeclaredBody (d.headedDraft charset line) = .ok draft := by
  have h' := h
  rw [Declaration.draft] at h'
  obtain ⟨started, hstarted, h'⟩ := bind_eq_ok.1 h'
  obtain ⟨headed, hheaded, -⟩ := bind_eq_ok.1 h'
  have hheaders := isSome_of_foldlM_addDeclaredHeader hheaded
  rw [requestLineDraft] at hstarted
  split at hstarted
  · exact nomatch hstarted
  · next line hline => exact ⟨line, hline, hheaders, draft_of_headers hline hheaders charset ▸ h⟩

/-- A header that is not added is not well-formed. -/
theorem parse?_of_addDeclaredHeader {d : Declaration} {draft : Draft} {text : String}
    {e : CompileError} (h : d.addDeclaredHeader draft text = .error e) :
    Header.parse? text = none ∧ e = d.defect (.malformedHeader text) := by
  rw [addDeclaredHeader] at h
  split at h
  · next hparsed => exact ⟨hparsed, (Except.error.inj h).symm⟩
  · exact nomatch h

/-- Setting the declared body fails only if the body has no bytes. -/
theorem setDeclaredBody_eq_error {d : Declaration} {draft : Draft} {e : CompileError}
    (h : d.setDeclaredBody draft = .error e) :
    ∃ text, d.body = some text ∧ Placeholder.occursIn text = false ∧
      ∃ error, Charset.encode draft.charset text.toList = .error error ∧ e = .coding error := by
  rw [setDeclaredBody] at h
  split at h
  · exact nomatch h
  · next text hbody =>
    split at h
    · exact nomatch h
    · next error hset =>
      obtain ⟨hslots, hbytes⟩ := Draft.setBody_eq_error hset
      exact ⟨text, hbody, hslots, error, hbytes, (Except.error.inj h).symm⟩

/-- A draft is not made because there is no verb, because of the first header that is
not well-formed, or because the body has no bytes. -/
theorem draft_eq_error {d : Declaration} {charset : String} {e : CompileError}
    (h : d.draft charset = .error e) :
    (d.line? = none ∧ e = d.defect (.missingRequestLine d.methodName)) ∨
      (d.line?.isSome ∧ ∃ front text back, d.headers = front ++ text :: back ∧
        (∀ t ∈ front, (Header.parse? t).isSome) ∧ Header.parse? text = none ∧
        e = d.defect (.malformedHeader text)) ∨
      ∃ text, d.body = some text ∧ Placeholder.occursIn text = false ∧
        ∃ error, Charset.encode charset text.toList = .error error ∧ e = .coding error := by
  cases hline : d.line? with
  | none =>
    left
    rw [draft, requestLineDraft, show d.requestLine.bind RequestLine.parse? = none from hline] at h
    exact ⟨rfl, (Except.error.inj h).symm⟩
  | some line =>
    right
    by_cases hheaders : ∀ text ∈ d.headers, (Header.parse? text).isSome
    · rw [draft_of_headers hline hheaders] at h
      have hbody := setDeclaredBody_eq_error h
      rw [show (d.headedDraft charset line).charset = charset from rfl] at hbody
      exact Or.inr hbody
    · left
      rw [draft, requestLineDraft_of_line? hline] at h
      replace h : (d.headers.foldlM d.addDeclaredHeader _ >>= d.setDeclaredBody) = .error e := h
      cases hfold : d.headers.foldlM d.addDeclaredHeader
          (({ charset : Draft }).setMethod line.verb |>.append line.target) with
      | ok headed => exact absurd (isSome_of_foldlM_addDeclaredHeader hfold) hheaders
      | error e' =>
        rw [hfold] at h
        obtain rfl := Except.error.inj h
        obtain ⟨front, text, back, draft', hsplit, hfront, htext⟩ := foldlM_eq_error.1 hfold
        obtain ⟨hparsed, he⟩ := parse?_of_addDeclaredHeader htext
        exact ⟨rfl, front, text, back, hsplit, isSome_of_foldlM_addDeclaredHeader hfront, hparsed,
          he⟩

/-! ### The parts of the template -/

/-- What setting the declared body does to a draft. -/
theorem setDeclaredBody_eq_ok {d : Declaration} {draft draft' : Draft}
    (h : d.setDeclaredBody draft = .ok draft') :
    (d.body = none ∧ draft' = draft) ∨
      ∃ text, d.body = some text ∧
        ((Placeholder.occursIn text = true ∧ draft' = draft.setBodyTemplate text) ∨
          (Placeholder.occursIn text = false ∧
            ∃ bytes, Charset.encode draft.charset text.toList = .ok bytes ∧
              draft' = draft.setLiteralBody bytes)) := by
  rw [setDeclaredBody] at h
  split at h
  · next hbody => exact Or.inl ⟨hbody, (Except.ok.inj h).symm⟩
  · next text hbody =>
    split at h
    · next set hset =>
      obtain rfl := Except.ok.inj h
      exact Or.inr ⟨text, hbody, Draft.setBody_eq_ok hset⟩
    · exact nomatch h

/-- A draft has a body exactly if one is declared. -/
theorem hasBody_draft {d : Declaration} {charset : String} {draft : Draft}
    (h : d.draft charset = .ok draft) : draft.hasBody = d.body.isSome := by
  obtain ⟨line, -, -, hset⟩ := draft_eq_ok h
  rcases setDeclaredBody_eq_ok hset with
    ⟨hbody, rfl⟩ | ⟨text, hbody, ⟨-, rfl⟩ | ⟨-, bytes, -, rfl⟩⟩
  · rw [hbody]
    rfl
  · rw [hbody]
    rfl
  · rw [hbody]
    rfl

/-- The text of a length holds no placeholder. -/
theorem occurrences_lengthText (bytes : Bytes) :
    Placeholder.occurrences (lengthText bytes) = [] := by
  refine Placeholder.slots_of_not_mem fun h => ?_
  rw [lengthText, Nat.toString_eq_repr, Nat.repr_eq_ofList_toDigits, String.toList_ofList] at h
  exact absurd (Nat.isDigit_of_mem_toDigits (by decide) (by decide) h) (by decide)

theorem mem_headers_headedDraft {d : Declaration} {charset : String} {line : RequestLine}
    {e : String × String} :
    e ∈ (d.headedDraft charset line).headers.pairs ↔
      ∃ header ∈ d.parsedHeaders, (header.name, header.value) = e := by
  rw [headedDraft, OrderedMap.mem_pairs_pushAll, List.mem_map]
  simp [OrderedMap.mem_pairs, OrderedMap.empty]

theorem mem_queries_headedDraft {d : Declaration} {charset : String} {line : RequestLine}
    {e : QueryEntry} :
    e ∈ (d.headedDraft charset line).queries.pairs ↔
      e ∈ (PathAndQuery.parse line.target).entries := by
  rw [headedDraft, OrderedMap.mem_pairs_pushAll]
  simp [OrderedMap.mem_pairs, OrderedMap.empty]

section

variable {d : Declaration} {charset : String} {line : RequestLine} {draft : Draft}
  (h : d.setDeclaredBody (d.headedDraft charset line) = .ok draft)
include h

/-- The placeholders in the headers of the draft are those in the declared headers,
but for the header that the body replaces. -/
theorem exists_header_draft (name : String) :
    (∃ e ∈ draft.headers.pairs, name ∈ Placeholder.occurrences e.2) ↔
      ∃ header ∈ d.parsedHeaders, (d.body.isNone || header.name != Header.contentLength) = true ∧
        name ∈ Placeholder.occurrences header.value := by
  -- A pair whose value holds a name is kept unless its place is taken.
  have hpairs : ∀ e : String × String, name ∈ Placeholder.occurrences e.2 →
      (e ∈ draft.headers.pairs ↔ (d.body.isNone || e.1 != Header.contentLength) = true ∧
        e ∈ (d.headedDraft charset line).headers.pairs) := by
    intro e hname
    rcases setDeclaredBody_eq_ok h with
      ⟨hbody, rfl⟩ | ⟨text, hbody, ⟨-, rfl⟩ | ⟨-, bytes, -, rfl⟩⟩
    · simp [hbody]
    · simp [Draft.setBodyTemplate, OrderedMap.mem_pairs_erase, hbody]
    · -- The length that the body adds holds no placeholder, so `e` is another pair.
      have hlength : e.2 ≠ lengthText bytes := by
        intro heq
        rw [heq, occurrences_lengthText] at hname
        exact absurd hname List.not_mem_nil
      simp [Draft.setLiteralBody, OrderedMap.mem_pairs_insert, hbody, hlength]
  constructor
  · rintro ⟨e, he, hname⟩
    obtain ⟨hkept, he⟩ := (hpairs e hname).1 he
    obtain ⟨header, hheader, rfl⟩ := mem_headers_headedDraft.1 he
    exact ⟨header, hheader, hkept, hname⟩
  · rintro ⟨header, hheader, hkept, hname⟩
    have he : (header.name, header.value) ∈ (d.headedDraft charset line).headers.pairs :=
      mem_headers_headedDraft.2 ⟨header, hheader, rfl⟩
    exact ⟨(header.name, header.value),
      (hpairs (header.name, header.value) hname).2 ⟨hkept, he⟩, hname⟩

/-- Setting the body changes neither the method nor the url nor the queries. -/
theorem target_draft : draft.method = some line.verb ∧
    draft.url = (d.headedDraft charset line).url ∧
    draft.queries = (d.headedDraft charset line).queries := by
  rcases setDeclaredBody_eq_ok h with
    ⟨-, rfl⟩ | ⟨text, -, ⟨-, rfl⟩ | ⟨-, bytes, -, rfl⟩⟩
  · exact ⟨rfl, rfl, rfl⟩
  · exact ⟨rfl, rfl, rfl⟩
  · exact ⟨rfl, rfl, rfl⟩

/-- The header that states the length of the body: a body that is bytes has it with
their count, a body template does not have it. -/
theorem contentLength_draft :
    (∀ bytes, draft.body = some bytes →
      draft.headers.get? Header.contentLength = some [lengthText bytes]) ∧
    (∀ text, draft.bodyTemplate = some text →
      draft.headers.get? Header.contentLength = none) := by
  rcases setDeclaredBody_eq_ok h with
    ⟨-, rfl⟩ | ⟨text, -, ⟨-, rfl⟩ | ⟨-, bytes, -, rfl⟩⟩
  · exact ⟨fun _ hbody => (nomatch hbody), fun _ hbody => nomatch hbody⟩
  · exact ⟨fun _ hbody => (nomatch hbody), fun _ _ => OrderedMap.get?_erase_self _ _⟩
  · refine ⟨fun bytes' hbody => ?_, fun _ hbody => nomatch hbody⟩
    obtain rfl := Option.some.inj hbody
    exact (OrderedMap.get?_insert _ _ _ _).trans (if_pos rfl)

theorem formed_draft : draft.template.Formed := by
  have hheaded : (d.headedDraft charset line).template.Formed :=
    ⟨OrderedMap.noneEmpty_pushAll OrderedMap.noneEmpty_empty _,
      OrderedMap.noneEmpty_pushAll OrderedMap.noneEmpty_empty _, Or.inl rfl, fun _ ht => nomatch ht⟩
  rw [setDeclaredBody] at h
  split at h
  · exact Except.ok.inj h ▸ hheaded
  · split at h
    · next hset => exact Except.ok.inj h ▸ Draft.formed_setBody hheaded hset
    · exact nomatch h

/-- The names of the url, the queries and the headers of the template are those of
the declaration. -/
theorem mem_httpPlaceholders_draft {name : String} :
    name ∈ draft.template.httpPlaceholders ↔
      ∃ text ∈ d.httpSites line, name ∈ Placeholder.occurrences text := by
  obtain ⟨-, hurl, hqueries⟩ := target_draft h
  -- The texts of the template and those of the declaration, written in the same way; they
  -- differ in the headers only.
  have htexts : ∀ text, text ∈ draft.template.httpTexts ↔
      text = (PathAndQuery.parse line.target).path ∨
        (∃ e ∈ (PathAndQuery.parse line.target).entries, text = e.1 ∨ e.2 = some text) ∨
        ∃ e ∈ draft.headers.pairs, e.2 = text := by
    intro text
    rw [Template.mem_httpTexts (formed_draft h).queries]
    simp only [Draft.template, hurl, hqueries, mem_queries_headedDraft]
    rfl
  have hsites : ∀ text, text ∈ d.httpSites line ↔
      text = (PathAndQuery.parse line.target).path ∨
        (∃ e ∈ (PathAndQuery.parse line.target).entries, text = e.1 ∨ e.2 = some text) ∨
        ∃ header ∈ d.parsedHeaders,
          (d.body.isNone || header.name != Header.contentLength) = true ∧
            header.value = text := by
    intro text
    simp only [httpSites, List.cons_append, List.mem_cons, List.mem_append, List.mem_flatMap,
      List.mem_map, List.mem_filter, Option.mem_toList, and_assoc]
  rw [Template.mem_httpPlaceholders]
  have hheaders := exists_header_draft h name
  constructor
  · rintro ⟨text, htext, hname⟩
    rcases (htexts text).1 htext with htext | htext | ⟨e, he, rfl⟩
    · exact ⟨text, (hsites text).2 (Or.inl htext), hname⟩
    · exact ⟨text, (hsites text).2 (Or.inr (Or.inl htext)), hname⟩
    · obtain ⟨header, hheader, hkept, hname⟩ := hheaders.1 ⟨e, he, hname⟩
      exact ⟨header.value, (hsites _).2 (Or.inr (Or.inr ⟨header, hheader, hkept, rfl⟩)), hname⟩
  · rintro ⟨text, htext, hname⟩
    rcases (hsites text).1 htext with htext | htext | ⟨header, hheader, hkept, rfl⟩
    · exact ⟨text, (htexts text).2 (Or.inl htext), hname⟩
    · exact ⟨text, (htexts text).2 (Or.inr (Or.inl htext)), hname⟩
    · obtain ⟨e, he, hname⟩ := hheaders.2 ⟨header, hheader, hkept, hname⟩
      exact ⟨e.2, (htexts _).2 (Or.inr (Or.inr ⟨e, he, rfl⟩)), hname⟩

/-- The names of the template are those of the declaration. A declared body without
placeholders is no body template, and holds no name either. -/
theorem mem_placeholders_draft {name : String} :
    name ∈ draft.template.placeholders ↔
      ∃ text ∈ d.sites line, name ∈ Placeholder.occurrences text := by
  have hbody : (∃ text, draft.template.bodyTemplate = some text ∧
      name ∈ Placeholder.occurrences text) ↔
      ∃ text, d.body = some text ∧ name ∈ Placeholder.occurrences text := by
    rcases setDeclaredBody_eq_ok h with
      ⟨hbody, rfl⟩ | ⟨text, hbody, ⟨-, rfl⟩ | ⟨hslots, bytes, -, rfl⟩⟩
    · simp [hbody, Draft.template, headedDraft]
    · simp [hbody, Draft.template, Draft.setBodyTemplate]
    · -- A body that was encoded at once holds no name.
      have hno : name ∉ Placeholder.occurrences text := by
        intro hname
        rw [Placeholder.occursIn_iff.2 ⟨name, hname⟩] at hslots
        exact nomatch hslots
      simp [hbody, hno, Draft.template, Draft.setLiteralBody]
  rw [Template.mem_placeholders, mem_httpPlaceholders_draft h, hbody]
  simp only [sites, List.mem_append, Option.mem_toList, or_and_right, exists_or]

end

end HttpInterface.Declaration
