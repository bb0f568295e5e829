import HttpInterface.Proofs.Compile.Draft
import HttpInterface.Proofs.Compile.Method
import HttpInterface.Proofs.Expansion
import HttpInterface.Proofs.Call

/-!
# `HttpInterface.Proofs.ContentLength`: the length of a body is stated

A body comes from one of three places: it is declared as it is, it is declared with placeholders,
or it is an argument. In each of them `Content-Length` is set to the length of the body, and what
the class and the method declare under this name is lost.

Names of headers are compared as they are written there, while letter case does not count where a
request is read. So a declared header `content-length` stays beside the one that was set.
`contentLength_of_request` says what follows: the length is stated under its own name once, and
it is the only length exactly if no declared header of another spelling gives a value.
-/

set_option autoImplicit false

namespace HttpInterface

/-- A filter that keeps more keeps the same if it keeps nothing more of the list. -/
theorem filter_eq_filter_iff {α : Type} {p q : α → Bool} {l : List α}
    (hpq : ∀ a, p a = true → q a = true) :
    l.filter q = l.filter p ↔ ∀ a ∈ l, q a = true → p a = true := by
  constructor
  · intro h a ha hq
    have hmem : a ∈ l.filter p := h ▸ List.mem_filter.2 ⟨ha, hq⟩
    exact (List.mem_filter.1 hmem).2
  · intro h
    refine List.filter_congr fun a ha => ?_
    rw [Bool.eq_iff_iff]
    exact ⟨h a ha, hpq a⟩

namespace Declaration

variable {d : Declaration} {charset : String} {draft : Draft}

/-- Headers of another name than that of the length are those that are declared. -/
theorem mem_headers_draft (h : d.draft charset = .ok draft) {p : String × String}
    (hp : p.1 ≠ Header.contentLength) :
    p ∈ draft.headers.pairs ↔ ∃ header ∈ d.parsedHeaders, (header.name, header.value) = p := by
  obtain ⟨line, -, -, hset⟩ := draft_eq_ok h
  rw [show (∃ header ∈ d.parsedHeaders, (header.name, header.value) = p) ↔
    p ∈ (d.headedDraft charset line).headers.pairs from mem_headers_headedDraft.symm]
  rcases setDeclaredBody_eq_ok hset with ⟨-, rfl⟩ | ⟨text, -, ⟨-, rfl⟩ | ⟨-, bytes, -, rfl⟩⟩
  · rfl
  · simp [Draft.setBodyTemplate, OrderedMap.mem_pairs_erase, hp]
  · simp [Draft.setLiteralBody, OrderedMap.mem_pairs_insert, hp]

end Declaration

/-- The request has the content as its body, and its length under the name for it. -/
def ExpandedRequest.StatesLength (r : ExpandedRequest) (content : Bytes) : Prop :=
  r.body = some content ∧ r.headers.get? Header.contentLength = some [lengthText content]

namespace Template

/-- A body that is set has its length stated. -/
theorem statesLength_withBody (r : ExpandedRequest) (content : Bytes) :
    (withBody r content).StatesLength content :=
  ⟨rfl, (OrderedMap.get?_insert _ _ _ _).trans (if_pos rfl)⟩

/-- The length that the template states is no placeholder, so filling leaves it as it is. -/
theorem statesLength_filledRequest {t : Template} {bytes : Bytes} (hbody : t.body = some bytes)
    (hlength : t.headers.get? Header.contentLength = some [lengthText bytes])
    (args : Arguments) : (t.filledRequest args).StatesLength bytes := by
  have hvalues : headerValues args [lengthText bytes] = [lengthText bytes] := by
    rw [headerValues, List.flatMap_cons,
      fannedOut_of_occurrences (Declaration.occurrences_lengthText bytes)]
    rfl
  refine ⟨hbody, OrderedMap.get?_eq_some_iff.2 ?_⟩
  rw [entries_headers, List.mem_filter, List.mem_map]
  exact ⟨⟨_, OrderedMap.get?_eq_some_iff.1 hlength, by rw [hvalues]⟩, rfl⟩

theorem mem_pairs_withBody (r : ExpandedRequest) (content : Bytes) {p : String × String}
    (hp : p.1 ≠ Header.contentLength) :
    p ∈ (withBody r content).headers.pairs ↔ p ∈ r.headers.pairs := by
  simp [withBody, OrderedMap.mem_pairs_insert, hp]

end Template

namespace CompiledMethod

/-- The request of a call has a body: one that is declared, or an argument that is not none. -/
def SendsBody (m : CompiledMethod) (args : List Value) : Prop :=
  m.template.body.isSome ∨ m.template.bodyTemplate.isSome ∨
    ∃ index value, m.bodyIndex = some index ∧ argumentAt args index = .ok value ∧
      value.isNull = false

variable {m : CompiledMethod} {args : List Value} {options : CallOptions}
  {r complete : ExpandedRequest}

/-- An argument that is to be the body and is not none is one. -/
theorem bodyArgument_eq_some {index : Int} {value : Value} (hindex : m.bodyIndex = some index)
    (hvalue : argumentAt args index = .ok value) (hnull : value.isNull = false)
    (hbody : r.body = none) : m.bodyArgument args r = .ok (some value) := by
  simp only [bodyArgument, hindex, hbody, hvalue]
  show Except.ok (if value.isNull = true then none else some value) = _
  rw [if_neg (by simp [hnull])]

/-- Each of the three bodies has its length stated, and other headers are those of the template. -/
theorem statesLength_of_finished {named : Arguments} {charset : String}
    (hlength : ∀ bytes, m.template.body = some bytes →
      m.template.headers.get? Header.contentLength = some [lengthText bytes])
    (hexpand : m.template.expand named charset = .ok r) (hsends : m.SendsBody args)
    (h : Finished m args options r complete) :
    (∃ content, complete.StatesLength content) ∧
      ∀ p : String × String, p.1 ≠ Header.contentLength →
        (p ∈ complete.headers.pairs ↔ p ∈ (m.template.filledRequest named).headers.pairs) := by
  have hr := Template.expand_eq_ok_cases hexpand
  cases h with
  | @encoded value content hvalue hcontent =>
    refine ⟨⟨content, Template.statesLength_withBody r content⟩, fun p hp => ?_⟩
    rw [show setContent content r = Template.withBody r content from rfl,
      Template.mem_pairs_withBody r content hp]
    rcases hr with ⟨-, rfl⟩ | ⟨text, body, -, -, rfl⟩
    · rfl
    · exact Template.mem_pairs_withBody _ body hp
  | unchanged hnone =>
    rcases hr with ⟨hno, rfl⟩ | ⟨text, body, -, -, rfl⟩
    · -- No body template and no argument: the body is the one that is declared.
      refine ⟨?_, fun _ _ => Iff.rfl⟩
      cases hbody : m.template.body with
      | some bytes =>
        exact ⟨bytes, Template.statesLength_filledRequest hbody (hlength bytes hbody) named⟩
      | none =>
        rcases hsends with hsome | hsome | ⟨index, value, hindex, hvalue, hnull⟩
        · simp [hbody] at hsome
        · simp [hno] at hsome
        · have hsome := bodyArgument_eq_some (r := m.template.filledRequest named) hindex hvalue
            hnull hbody
          exact nomatch hnone.symm.trans hsome
    · exact ⟨⟨body, Template.statesLength_withBody _ body⟩, fun p hp =>
        Template.mem_pairs_withBody _ body hp⟩

end CompiledMethod

namespace WireRequest

/-- A request whose length is stated is sent with just that length under its name. -/
theorem filter_headers_of_statesLength {r : ExpandedRequest} {base : Value} {w : WireRequest}
    {content : Bytes} (h : r.StatesLength content) (hwire : r.toWire base = .ok w) :
    w.content = content ∧
      (w.headers.filter fun e => e.1 = Header.contentLength) =
        [(Header.contentLength, lengthText content)] ∧
      ∀ e, sameName e.1 Header.contentLength = true → (e ∈ w.headers ↔ e ∈ r.headers.pairs) := by
  have hmem : (Header.contentLength, lengthText content) ∈ r.headerList :=
    OrderedMap.mem_pairs.2 ⟨_, OrderedMap.get?_eq_some_iff.1 h.2, List.mem_singleton.2 rfl⟩
  obtain ⟨host, hhost, hheaders⟩ := headers_of_mem hwire hmem
  obtain ⟨-, hcontent, -⟩ := make_eq_ok hwire
  refine ⟨by rw [hcontent, h.1]; rfl, ?_, fun e he => ?_⟩
  · have hnil : (host.filter fun e => e.1 = Header.contentLength) = [] := by
      rw [List.filter_eq_nil_iff]
      intro e he
      rw [hhost e he]
      decide
    rw [hheaders, List.filter_append, hnil, List.nil_append]
    show (r.headers.pairs.filter _) = _
    rw [OrderedMap.filter_pairs, h.2]
    rfl
  · rw [hheaders, List.mem_append]
    refine ⟨fun hmem => hmem.resolve_left fun hin => ?_, Or.inr⟩
    rw [hhost e hin] at he
    exact absurd he (by decide)

end WireRequest

namespace Declaration

/-- A request with a body states its length once under the name for it. It is the only length
exactly if no header that is declared in another spelling of the name gives a value. -/
theorem contentLength_of_request (d : Declaration) (settings : Settings) (r : NameResolver)
    (m : CompiledMethod) (hm : (d.compile settings r).result = .ok m) (args : List Value)
    (options : CallOptions) (w : WireRequest) (hrequest : m.request args options = .ok w)
    (hsends : m.SendsBody args) :
    (w.headers.filter fun e => e.1 = Header.contentLength) =
        [(Header.contentLength, lengthText w.content)] ∧
      ∃ named, m.argumentsByName args = .ok named ∧
        ((w.headers.filter fun e => WireRequest.sameName e.1 Header.contentLength) =
            [(Header.contentLength, lengthText w.content)] ↔
          ∀ header ∈ d.parsedHeaders,
            WireRequest.sameName header.name Header.contentLength = true →
            header.name ≠ Header.contentLength →
            Template.fannedOut named Value.requestText header.value = []) := by
  obtain ⟨expanded, base, complete, hprepare, hfinished, hwire⟩ :=
    CompiledMethod.request_eq_ok.1 hrequest
  obtain ⟨named, hnamed, hexpand, -⟩ := CompiledMethod.prepare_eq_ok.1 hprepare
  obtain ⟨draft, hdraft, -, -, rfl⟩ := compile_eq_ok.1 hm
  obtain ⟨line, -, -, hset⟩ := draft_eq_ok hdraft
  obtain ⟨⟨content, hstates⟩, hpairs⟩ := CompiledMethod.statesLength_of_finished
    (contentLength_draft hset).1 hexpand hsends hfinished
  obtain ⟨rfl, hfilter, hmem⟩ := WireRequest.filter_headers_of_statesLength hstates hwire
  -- A header of another spelling is sent exactly if it is declared and gives a value.
  have hsent : ∀ e : String × String, WireRequest.sameName e.1 Header.contentLength = true →
      e.1 ≠ Header.contentLength →
      (e ∈ w.headers ↔ ∃ header ∈ d.parsedHeaders, header.name = e.1 ∧
        e.2 ∈ Template.fannedOut named Value.requestText header.value) := by
    intro e hname hne
    rw [hmem e hname, hpairs e hne, Template.pairs_headers, List.mem_flatMap]
    constructor
    · rintro ⟨⟨name, text⟩, hp, he⟩
      obtain ⟨v, hv, rfl⟩ := List.mem_map.1 he
      obtain ⟨header, hheader, heq⟩ :=
        (mem_headers_draft hdraft (p := (name, text)) hne).1 hp
      obtain ⟨rfl, rfl⟩ := Prod.mk.inj heq
      exact ⟨header, hheader, rfl, hv⟩
    · rintro ⟨header, hheader, hkey, hv⟩
      refine ⟨(header.name, header.value), ?_, List.mem_map.2 ⟨e.2, hv, by rw [hkey]⟩⟩
      exact (mem_headers_draft hdraft (hkey ▸ hne)).2 ⟨header, hheader, rfl⟩
  refine ⟨hfilter, named, hnamed, ?_⟩
  rw [← hfilter,
    filter_eq_filter_iff fun e he => by simp [of_decide_eq_true he, WireRequest.sameName]]
  constructor
  · intro h header hheader hname hne
    refine List.eq_nil_iff_forall_not_mem.2 fun v hv => hne ?_
    have he := (hsent (header.name, v) hname hne).2 ⟨header, hheader, rfl, hv⟩
    exact of_decide_eq_true (h _ he hname)
  · intro h e he hname
    refine decide_eq_true (Decidable.byContradiction fun hne => ?_)
    obtain ⟨header, hheader, hkey, hv⟩ := (hsent e hname hne).1 he
    rw [h header hheader (hkey ▸ hname) (hkey ▸ hne)] at hv
    exact absurd hv List.not_mem_nil

/-- The header that the sample declares for the length gives way to the length of the body. -/
theorem contentLength_sample :
    (sample.compile {} (.standard true)).result = .ok sampleMethod ∧
      sampleMethod.request sampleCall {} = .ok sampleSent ∧ sampleMethod.SendsBody sampleCall ∧
      (sampleSent.headers.filter fun e => WireRequest.sameName e.1 Header.contentLength) =
        [(Header.contentLength, lengthText sampleSent.content)] := by
  have hsends : sampleMethod.SendsBody sampleCall := Or.inr (Or.inl rfl)
  obtain ⟨-, named, -, honly⟩ := contentLength_of_request sample {} _ sampleMethod compile_sample
    sampleCall {} sampleSent request_sample hsends
  refine ⟨compile_sample, request_sample, hsends, honly.2 ?_⟩
  -- The sample declares no header of another spelling.
  intro header hheader hname hne
  have hall : ∀ header ∈ sample.parsedHeaders,
      WireRequest.sameName header.name Header.contentLength = true →
        header.name = Header.contentLength := by decide
  exact absurd (hall header hheader hname) hne

/-- A declaration with a length of its own, in lower case. -/
def note : Declaration where
  declaringType := "Notes"
  methodName := "add"
  requestLine := some "POST /notes"
  methodHeaders := ["content-length: 5"]
  body := some "hi"

/-- Two lengths are stated, and they differ. -/
theorem two_lengths_of_note :
    ∃ m w, (note.compile {} (.standard true)).result = .ok m ∧
      m.request [] { baseUrl := .text "https://h.test" } = .ok w ∧ m.SendsBody [] ∧
      (w.headers.filter fun e => WireRequest.sameName e.1 Header.contentLength) =
        [("content-length", "5"), ("Content-Length", "2")] := by
  refine ⟨_, _, rfl, rfl, Or.inl rfl, ?_⟩
  decide

end Declaration

end HttpInterface
