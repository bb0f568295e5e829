import HttpInterface.Proofs.Builder.Values
import HttpInterface.Proofs.OrderedMap.Grouping
import Mathlib.Data.List.DropRight

/-!
# `HttpInterface.Proofs.Builder.History`: a builder is what was done to it

`History` is the reference that a builder is held against: the changes that were made, in
their order, and whether the template was handed out. It says which call is refused and why
(`History.refusal`), and `Describes` says what a template is after some changes: the last
method, the paths one behind the other, the entries of all queries grouped by key, the last
body, and for each header name its values.

One header is shared. A body that is bytes states its length as the one value of
`Content-Length`, a body template takes that header away, and headers that are added later go
behind. So only what was added after the last body counts there
(`Describes.contentLength`).

`Describes.concat` is the step of one change and `Reflects.perform` that of one call.
`run_refines` is the result for whole runs, over calls that succeed and calls that fail, and
it holds alike for a builder that is given the texts as values.
-/

set_option autoImplicit false

namespace HttpInterface

namespace Change

/-! ### What a change brings -/

/-- The method that is set. -/
def method? : Change → Option String
  | .setMethod method => some method
  | _ => none

/-- The path that is appended. -/
def path : Change → String
  | .append text => (PathAndQuery.parse text).path
  | _ => ""

/-- The query entries that are added. -/
def entries : Change → List QueryEntry
  | .append text => (PathAndQuery.parse text).entries
  | .addQuery key value => [(key, value)]
  | _ => []

/-- The header that is added. -/
def header? : Change → Option (String × String)
  | .addHeader name value => some (name, value)
  | _ => none

/-- The body that is set. -/
def body? : Change → Option String
  | .setBody text => some text
  | _ => none

/-- Why a change is not made: a body without placeholders has no bytes. -/
def codingError? (charset : String) : Change → Option CodingError
  | .setBody text =>
    if Placeholder.occursIn text then none
    else
      match Charset.encode charset text.toList with
      | .error e => some e
      | .ok _ => none
  | _ => none

/-- The method that is set last; the empty text if none is. -/
def lastMethod (changes : List Change) : String :=
  (changes.filterMap method?).getLast?.getD ""

/-- The values that are added for a header name, in their order. -/
def headerValues (changes : List Change) (name : String) : List String :=
  ((changes.filterMap header?).filter fun h => h.1 = name).map Prod.snd

/-- The body that is set last. -/
def lastBody (changes : List Change) : Option String :=
  (changes.filterMap body?).getLast?

/-- The changes behind the one that sets the last body; all of them if none does. -/
def sinceBody (changes : List Change) : List Change :=
  changes.rtakeWhile fun c => c.body?.isNone

end Change

/-- The parts of a template are those that some changes have brought. -/
structure Describes (charset : String) (changes : List Change) (t : Template) : Prop where
  method : t.method = Change.lastMethod changes
  url : t.url = String.join (changes.map Change.path)
  no_question : '?' ∉ t.url.toList
  queries : t.queries.entries = grouped (changes.flatMap Change.entries)
  no_body : Change.lastBody changes = none → t.body = none ∧ t.bodyTemplate = none
  /-- A body with placeholders is the body template. -/
  template_body : ∀ text, Change.lastBody changes = some text →
    Placeholder.occursIn text = true → t.body = none ∧ t.bodyTemplate = some text
  /-- A body without is bytes. -/
  literal_body : ∀ text, Change.lastBody changes = some text →
    Placeholder.occursIn text = false →
      ∃ bytes, Charset.encode charset text.toList = .ok bytes ∧ t.body = some bytes ∧
        t.bodyTemplate = none
  header : ∀ name, name ≠ Header.contentLength →
    (t.headers.get? name).getD [] = Change.headerValues changes name
  /-- The length of a body that is bytes, and what was added after the body was set. -/
  contentLength : (t.headers.get? Header.contentLength).getD [] =
    (t.body.map lengthText).toList ++
      Change.headerValues (Change.sinceBody changes) Header.contentLength
  /-- A header without values is not there. -/
  headers_nonempty : t.headers.NoneEmpty

/-! ### One change -/

namespace Change

theorem lastBody_concat (changes : List Change) (c : Change) :
    lastBody (changes ++ [c]) = c.body?.or (lastBody changes) := by
  rw [lastBody, List.filterMap_append]
  cases hc : c.body? with
  | none => simp [hc, lastBody]
  | some text => simp [hc]

theorem headerValues_concat (changes : List Change) (c : Change) (name : String) :
    headerValues (changes ++ [c]) name =
      headerValues changes name ++
        ((c.header?.toList.filter fun h => h.1 = name).map Prod.snd) := by
  rw [headerValues, List.filterMap_append, List.filter_append, List.map_append]
  cases hc : c.header? with
  | none => simp [hc, headerValues]
  | some h => simp [hc, headerValues]

theorem sinceBody_concat_of_none (changes : List Change) {c : Change} (hc : c.body? = none) :
    sinceBody (changes ++ [c]) = sinceBody changes ++ [c] :=
  List.rtakeWhile_concat_pos _ _ _ (by rw [hc]; rfl)

theorem sinceBody_concat_of_some (changes : List Change) {c : Change} {text : String}
    (hc : c.body? = some text) : sinceBody (changes ++ [c]) = [] :=
  List.rtakeWhile_concat_neg _ _ _ (by simp [hc])

end Change

/-- All that a change does to a template in the making. -/
structure Change.Effect (charset : String) (c : Change) (t t' : Template) : Prop where
  method : t'.method = c.method?.getD t.method
  url : t'.url = t.url ++ c.path
  queries : t'.queries = t.queries.pushAll c.entries
  /-- Unless a body is set, the body stays and headers are only added. -/
  keeps : c.body? = none → t'.body = t.body ∧ t'.bodyTemplate = t.bodyTemplate ∧
    t'.headers = t.headers.pushAll c.header?.toList
  /-- A body takes the place of the other one, and its length that of the length before. -/
  sets : ∀ text, c.body? = some text →
    (Placeholder.occursIn text = true ∧ t'.body = none ∧ t'.bodyTemplate = some text ∧
      t'.headers = t.headers.erase Header.contentLength) ∨
    (Placeholder.occursIn text = false ∧ ∃ bytes, Charset.encode charset text.toList = .ok bytes ∧
      t'.body = some bytes ∧ t'.bodyTemplate = none ∧
      t'.headers = t.headers.insert Header.contentLength [lengthText bytes])

theorem Change.effect_of_change {c : Change} {d d' : Draft} (h : d.change c = .ok d') :
    c.Effect d.charset d.template d'.template ∧ d'.charset = d.charset := by
  cases c with
  | setMethod method =>
    obtain rfl := Except.ok.inj h
    exact ⟨⟨rfl, String.append_empty.symm, rfl, fun _ => ⟨rfl, rfl, rfl⟩,
      fun _ ht => nomatch ht⟩, rfl⟩
  | append text =>
    obtain rfl := Except.ok.inj h
    rw [Draft.append_eq]
    exact ⟨⟨rfl, rfl, rfl, fun _ => ⟨rfl, rfl, rfl⟩, fun _ ht => nomatch ht⟩, rfl⟩
  | addQuery key value =>
    obtain rfl := Except.ok.inj h
    exact ⟨⟨rfl, String.append_empty.symm, rfl, fun _ => ⟨rfl, rfl, rfl⟩,
      fun _ ht => nomatch ht⟩, rfl⟩
  | addHeader name value =>
    obtain rfl := Except.ok.inj h
    exact ⟨⟨rfl, String.append_empty.symm, rfl, fun _ => ⟨rfl, rfl, rfl⟩,
      fun _ ht => nomatch ht⟩, rfl⟩
  | setBody text =>
    rcases Draft.setBody_eq_ok h with ⟨hslots, rfl⟩ | ⟨hslots, bytes, hbytes, rfl⟩
    · refine ⟨⟨rfl, String.append_empty.symm, rfl, fun hbody => (nomatch hbody), ?_⟩, rfl⟩
      rintro text' ⟨⟩
      exact Or.inl ⟨hslots, rfl, rfl, rfl⟩
    · refine ⟨⟨rfl, String.append_empty.symm, rfl, fun hbody => (nomatch hbody), ?_⟩, rfl⟩
      rintro text' ⟨⟩
      exact Or.inr ⟨hslots, bytes, hbytes, rfl, rfl, rfl⟩

/-- The template of no changes. -/
theorem describes_nil (charset : String) :
    Describes charset [] (Builder.start charset).draft.template where
  method := rfl
  url := rfl
  no_question := List.not_mem_nil
  queries := rfl
  no_body _ := ⟨rfl, rfl⟩
  template_body _ h := nomatch h
  literal_body _ h := nomatch h
  header _ _ := rfl
  contentLength := rfl
  headers_nonempty := OrderedMap.noneEmpty_empty

/-- No path that is appended holds a `?`. -/
theorem Change.not_mem_path (c : Change) : '?' ∉ c.path.toList := by
  cases c with
  | append text => exact PathAndQuery.not_mem_path_parse text
  | _ => exact List.not_mem_nil

/-- A change that sets a body adds no header. -/
theorem Change.header?_of_body? {c : Change} {text : String} (h : c.body? = some text) :
    c.header? = none := by
  cases c with
  | setBody => rfl
  | _ => exact nomatch h

/-! ### A body that is set -/

namespace Change.Effect

variable {charset text : String} {c : Change} {t t' : Template} (hc : c.Effect charset t t')
  (hbody : c.body? = some text)
include hc hbody

theorem body_of_slots (hslots : Placeholder.occursIn text = true) :
    t'.body = none ∧ t'.bodyTemplate = some text := by
  rcases hc.sets text hbody with ⟨-, hbytes, htemplate, -⟩ | ⟨hliteral, -⟩
  · exact ⟨hbytes, htemplate⟩
  · exact nomatch hslots.symm.trans hliteral

theorem body_of_literal (hliteral : Placeholder.occursIn text = false) :
    ∃ bytes, Charset.encode charset text.toList = .ok bytes ∧ t'.body = some bytes ∧
      t'.bodyTemplate = none := by
  rcases hc.sets text hbody with ⟨hslots, -⟩ | ⟨-, bytes, hencode, hbytes, htemplate, -⟩
  · exact nomatch hslots.symm.trans hliteral
  · exact ⟨bytes, hencode, hbytes, htemplate⟩

theorem get?_headers {name : String} (hname : name ≠ Header.contentLength) :
    t'.headers.get? name = t.headers.get? name := by
  rcases hc.sets text hbody with ⟨-, -, -, hheaders⟩ | ⟨-, bytes, -, -, -, hheaders⟩
  · rw [hheaders, OrderedMap.get?_erase_of_ne _ hname]
  · rw [hheaders, OrderedMap.get?_insert, if_neg hname]

/-- What stood for the length before is gone. -/
theorem length_headers : (t'.headers.get? Header.contentLength).getD [] =
    (t'.body.map lengthText).toList := by
  rcases hc.sets text hbody with
    ⟨-, hbytes, -, hheaders⟩ | ⟨-, bytes, -, hbytes, -, hheaders⟩
  · rw [hheaders, OrderedMap.get?_erase_self, hbytes]
    rfl
  · rw [hheaders, OrderedMap.get?_insert, if_pos rfl, hbytes]
    rfl

theorem headers_nonempty (h : t.headers.NoneEmpty) : t'.headers.NoneEmpty := by
  rcases hc.sets text hbody with ⟨-, -, -, hheaders⟩ | ⟨-, bytes, -, -, -, hheaders⟩
  · rw [hheaders]
    exact OrderedMap.noneEmpty_erase h _
  · rw [hheaders]
    exact OrderedMap.noneEmpty_insert h _ (by simp)

end Change.Effect

/-! ### One change more -/

section

variable {charset : String} {changes : List Change} {c : Change} {t t' : Template}
  (h : Describes charset changes t) (hc : c.Effect charset t t')
include h hc

theorem Describes.method_concat : t'.method = Change.lastMethod (changes ++ [c]) := by
  rw [hc.method, h.method, Change.lastMethod, Change.lastMethod, List.filterMap_append]
  cases hmethod : c.method? <;> simp [hmethod]

theorem Describes.url_concat : t'.url = String.join ((changes ++ [c]).map Change.path) := by
  rw [hc.url, h.url]
  simp [String.join]

theorem Describes.no_question_concat : '?' ∉ t'.url.toList := by
  rw [hc.url, String.toList_append, List.mem_append, not_or]
  exact ⟨h.no_question, c.not_mem_path⟩

theorem Describes.queries_concat :
    t'.queries.entries = grouped ((changes ++ [c]).flatMap Change.entries) := by
  have hqueries : t.queries = OrderedMap.empty.pushAll (changes.flatMap Change.entries) :=
    OrderedMap.ext (h.queries.trans (OrderedMap.entries_pushAll _).symm)
  rw [hc.queries, hqueries, ← OrderedMap.pushAll_append, OrderedMap.entries_pushAll,
    List.flatMap_append, List.flatMap_singleton]

/-- A change that sets no body adds to the description of the headers. -/
theorem Describes.concat_of_none (hbody : c.body? = none) :
    Describes charset (changes ++ [c]) t' := by
  obtain ⟨hbytes, htemplate, hheaders⟩ := hc.keeps hbody
  have hlast : Change.lastBody (changes ++ [c]) = Change.lastBody changes := by
    rw [Change.lastBody_concat, hbody, Option.none_or]
  have hvalues : ∀ name, (t'.headers.get? name).getD [] =
      (t.headers.get? name).getD [] ++
        ((c.header?.toList.filter fun h => h.1 = name).map Prod.snd) := by
    intro name
    rw [hheaders, OrderedMap.getD_get?_pushAll]
  exact {
    method := h.method_concat hc
    url := h.url_concat hc
    no_question := h.no_question_concat hc
    queries := h.queries_concat hc
    no_body := by
      rw [hlast, hbytes, htemplate]
      exact h.no_body
    template_body := by
      rw [hlast, hbytes, htemplate]
      exact h.template_body
    literal_body := by
      rw [hlast, hbytes, htemplate]
      exact h.literal_body
    header := by
      intro name hname
      rw [hvalues, h.header name hname, Change.headerValues_concat]
    contentLength := by
      rw [hvalues, h.contentLength, hbytes, Change.sinceBody_concat_of_none changes hbody,
        Change.headerValues_concat, List.append_assoc]
    headers_nonempty := by
      rw [hheaders]
      exact OrderedMap.noneEmpty_pushAll h.headers_nonempty _ }

/-- A change that sets a body makes an end of what stood for the length before. -/
theorem Describes.concat_of_some {text : String} (hbody : c.body? = some text) :
    Describes charset (changes ++ [c]) t' := by
  have hlast : Change.lastBody (changes ++ [c]) = some text := by
    rw [Change.lastBody_concat, hbody, Option.some_or]
  -- A change that sets a body adds no header, and nothing is behind it yet.
  have hother : ∀ name, Change.headerValues (changes ++ [c]) name =
      Change.headerValues changes name := by
    intro name
    rw [Change.headerValues_concat, Change.header?_of_body? hbody]
    simp
  exact {
    method := h.method_concat hc
    url := h.url_concat hc
    no_question := h.no_question_concat hc
    queries := h.queries_concat hc
    no_body := by
      rw [hlast]
      exact fun h => nomatch h
    template_body := by
      rw [hlast]
      rintro text' ⟨⟩ hslots
      exact hc.body_of_slots hbody hslots
    literal_body := by
      rw [hlast]
      rintro text' ⟨⟩ hliteral
      exact hc.body_of_literal hbody hliteral
    header := by
      intro name hname
      rw [hc.get?_headers hbody hname, hother, h.header name hname]
    contentLength := by
      rw [hc.length_headers hbody, Change.sinceBody_concat_of_some changes hbody]
      exact (List.append_nil _).symm
    headers_nonempty := hc.headers_nonempty hbody h.headers_nonempty }

/-- What a change does to a template is what it adds to the description. -/
theorem Describes.concat : Describes charset (changes ++ [c]) t' := by
  cases hbody : c.body? with
  | none => exact h.concat_of_none hc hbody
  | some text => exact h.concat_of_some hc hbody

end

/-! ### Any row of calls -/

/-- What was done to a builder. -/
structure History where
  /-- The changes that were made. -/
  changes : List Change := []
  /-- The template was handed out. -/
  built : Bool := false

namespace History

/-- Why a call is refused, if it is. -/
def refusal (charset : String) (h : History) : BuilderCall → Option BuilderError
  | .snapshot => none
  | .build =>
    if h.built then some (.consumed .build)
    else if Change.lastMethod h.changes = "" then some .noMethod
    else none
  | .change c =>
    if h.built then some (.consumed c.operation)
    else (c.codingError? charset).map .coding

/-- The history after a call. A call that is refused leaves no trace. -/
def next (charset : String) (h : History) (call : BuilderCall) : History :=
  match h.refusal charset call, call with
  | none, .change c => { h with changes := h.changes ++ [c] }
  | none, .build => { h with built := true }
  | _, _ => h

/-- The history of a row of calls. -/
def ofCalls (charset : String) (calls : List BuilderCall) : History :=
  calls.foldl (next charset) {}

end History

/-- A fresh builder after a row of calls, those that fail included. -/
def Builder.ofCalls (charset : String) (calls : List BuilderCall) : Builder :=
  calls.foldl (fun b call => (InPlace.perform call).stateAfter b) (Builder.start charset)

/-- A fresh builder that is given the texts of the calls as values. -/
def ValueBuilder.ofCalls (charset : String) (calls : List BuilderCall) : ValueBuilder :=
  calls.foldl ValueBuilder.stateAfter (ValueBuilder.start (.text charset))

/-- Given texts as values, a builder is the one that is given the texts, through every row of
calls. -/
theorem ValueBuilder.ofCalls_eq_ofBuilder (charset : String) (calls : List BuilderCall) :
    ofCalls charset calls = ofBuilder (Builder.ofCalls charset calls) := by
  have key : ∀ (calls : List BuilderCall) (b : Builder),
      calls.foldl stateAfter (ofBuilder b) =
        ofBuilder (calls.foldl (fun b call => (InPlace.perform call).stateAfter b) b) := by
    intro calls
    induction calls with
    | nil => exact fun _ => rfl
    | cons call rest ih =>
      intro b
      rw [List.foldl_cons, List.foldl_cons, stateAfter_ofBuilder, ih]
  exact key calls (Builder.start charset)

/-- A builder is what its history says. -/
structure Reflects (charset : String) (h : History) (b : Builder) : Prop where
  encodes_in : b.draft.charset = charset
  built : b.built = h.built
  describes : Describes charset h.changes b.snapshot

theorem reflects_start (charset : String) : Reflects charset {} (Builder.start charset) :=
  ⟨rfl, rfl, describes_nil charset⟩

/-- A draft refuses a change exactly because of its body. -/
theorem Change.change_cases (c : Change) (d : Draft) :
    (∃ e, c.codingError? d.charset = some e ∧ d.change c = .error e) ∨
      (c.codingError? d.charset = none ∧ ∃ d', d.change c = .ok d') := by
  cases c with
  | setBody text =>
    rw [codingError?, Draft.change, Draft.setBody]
    by_cases hslots : Placeholder.occursIn text = true
    · rw [if_pos hslots, if_pos hslots]
      exact Or.inr ⟨rfl, _, rfl⟩
    · rw [if_neg hslots, if_neg hslots]
      cases Charset.encode d.charset text.toList with
      | error e => exact Or.inl ⟨e, rfl, rfl⟩
      | ok bytes => exact Or.inr ⟨rfl, _, rfl⟩
  | _ => exact Or.inr ⟨rfl, _, rfl⟩

/-- A builder that was used up refuses every change and every build. -/
theorem Builder.perform_of_built {b : Builder} (hbuilt : b.built = true) :
    (∀ c, b.perform (.change c) = .error (.consumed c.operation)) ∧
      b.perform .build = .error (.consumed .build) := by
  refine ⟨fun c => ?_, ?_⟩
  · rw [Builder.perform, Builder.change, if_pos hbuilt]
  · rw [Builder.perform, Builder.build, if_pos hbuilt]
    rfl

/-- No call changes a builder that was used up. -/
theorem InPlace.stateAfter_of_built {b : Builder} (hbuilt : b.built = true) (call : BuilderCall) :
    (perform call).stateAfter b = b := by
  rw [stateAfter, run_perform]
  cases call with
  | snapshot => rfl
  | build => rw [(Builder.perform_of_built hbuilt).2]
  | change c => rw [(Builder.perform_of_built hbuilt).1 c]

/-- A build that succeeds uses the builder up. -/
theorem InPlace.built_of_run_build {b b' : Builder} {answer : Option Template}
    (h : (perform .build).run b = .ok answer b') : b'.built = true := by
  rw [run_perform, Builder.perform, Builder.build] at h
  split at h
  · next hok =>
    split at hok
    · cases hok
    · split at hok
      · cases hok
      · obtain rfl := Except.ok.inj hok
        injection h with _ hstate
        rw [← hstate]
  · cases h

section

variable {charset : String} {h : History} {b : Builder} (hb : Reflects charset h b)
include hb

/-- A call is refused for the reason that the history gives, or it leads to a builder that
reflects the history after it. -/
theorem Reflects.perform (call : BuilderCall) :
    (∃ e, h.refusal charset call = some e ∧ b.perform call = .error e) ∨
      (h.refusal charset call = none ∧
        ∃ b', b.perform call = .ok b' ∧ Reflects charset (h.next charset call) b') := by
  cases hbuilt : h.built with
  | true =>
    have hused : b.built = true := hb.built.trans hbuilt
    cases call with
    | snapshot => exact Or.inr ⟨rfl, b, rfl, hb⟩
    | build => exact Or.inl ⟨_, if_pos hbuilt, (Builder.perform_of_built hused).2⟩
    | change c => exact Or.inl ⟨_, if_pos hbuilt, (Builder.perform_of_built hused).1 c⟩
  | false =>
    have hopen : b.built = false := hb.built.trans hbuilt
    cases call with
    | snapshot => exact Or.inr ⟨rfl, b, rfl, hb⟩
    | build =>
      have hmethod : b.draft.method.getD "" = Change.lastMethod h.changes := hb.describes.method
      simp only [History.next, History.refusal, hbuilt, Builder.perform, Builder.build, hopen,
        hmethod, Bool.false_eq_true, if_false, String.isEmpty_iff]
      by_cases hempty : Change.lastMethod h.changes = ""
      · rw [if_pos hempty, if_pos hempty]
        exact Or.inl ⟨_, rfl, rfl⟩
      · rw [if_neg hempty, if_neg hempty]
        exact Or.inr ⟨rfl, _, rfl, hb.encodes_in, rfl, hb.describes⟩
    | change c =>
      have hcases := c.change_cases b.draft
      rw [hb.encodes_in] at hcases
      simp only [History.next, History.refusal, hbuilt, Builder.perform, Builder.change, hopen,
        Bool.false_eq_true, if_false]
      rcases hcases with ⟨e, herror, hchange⟩ | ⟨hnone, d', hchange⟩
      · rw [herror, hchange]
        exact Or.inl ⟨_, rfl, rfl⟩
      · rw [hnone, hchange]
        obtain ⟨heffect, hcharset⟩ := Change.effect_of_change hchange
        rw [hb.encodes_in] at heffect
        exact Or.inr ⟨rfl, _, rfl, hcharset.trans hb.encodes_in, rfl, hb.describes.concat heffect⟩

end

/-- The state after a call reflects the history after it. -/
theorem Reflects.stateAfter {charset : String} {h : History} {b : Builder}
    (hb : Reflects charset h b) (call : BuilderCall) :
    Reflects charset (h.next charset call) ((InPlace.perform call).stateAfter b) := by
  rw [InPlace.stateAfter, InPlace.run_perform]
  rcases hb.perform call with ⟨e, hrefusal, herror⟩ | ⟨-, b', hok, hb'⟩
  · have hnext : h.next charset call = h := by
      simp only [History.next, hrefusal]
    rw [herror, hnext]
    exact hb
  · rw [hok]
    exact hb'

/-- A builder reflects its history through every row of calls. -/
theorem reflects_ofCalls (charset : String) (calls : List BuilderCall) :
    Reflects charset (History.ofCalls charset calls) (Builder.ofCalls charset calls) := by
  -- Both runs start together and take each step together.
  have key : ∀ (calls : List BuilderCall) {h : History} {b : Builder}, Reflects charset h b →
      Reflects charset (calls.foldl (History.next charset) h)
        (calls.foldl (fun b call => (InPlace.perform call).stateAfter b) b) := by
    intro calls
    induction calls with
    | nil => exact fun hb => hb
    | cons call rest ih => exact fun hb => ih (hb.stateAfter call)
  exact key calls (reflects_start charset)

/-- All that a row of calls, and any call behind it, does to a fresh builder. -/
structure Refines (charset : String) (calls : List BuilderCall) : Prop where
  /-- Every template that is taken is the one that the history describes. -/
  describes : Describes charset (History.ofCalls charset calls).changes
    (Builder.ofCalls charset calls).snapshot
  /-- A call that the history refuses fails for its reason and leaves the state as it was. -/
  refused : ∀ call e, (History.ofCalls charset calls).refusal charset call = some e →
    (InPlace.perform call).run (Builder.ofCalls charset calls) =
      .error e (Builder.ofCalls charset calls)
  /-- Every other call succeeds. A snapshot and a build give the template. -/
  accepted : ∀ call, (History.ofCalls charset calls).refusal charset call = none →
    (InPlace.perform call).run (Builder.ofCalls charset calls) =
      .ok (call.answer (Builder.ofCalls charset calls)) (Builder.ofCalls charset (calls ++ [call]))
  /-- Behind a build that succeeds the state never changes, whatever is called, and every
  change and every build is refused. -/
  closed : ∀ answer b, (InPlace.perform .build).run (Builder.ofCalls charset calls) = .ok answer b →
    ∀ more, Builder.ofCalls charset (calls ++ .build :: more) = b ∧
      (∀ c, (InPlace.perform (.change c)).run b = .error (.consumed c.operation) b) ∧
      (InPlace.perform .build).run b = .error (.consumed .build) b
  /-- A builder that is given the texts as values holds the same parts. -/
  values : ValueBuilder.ofCalls charset calls = .ofBuilder (Builder.ofCalls charset calls)
  /-- It gives the same answer to every call, or refuses it for the same reason. -/
  steps : ∀ call, (ValueBuilder.ofCalls charset calls).step call.member call.arguments =
    match (InPlace.perform call).run (Builder.ofCalls charset calls) with
    | .ok answer b => .ok (.ofBuilder b, .ofAnswer answer)
    | .error e _ => .error (.ofError e)

/-- A builder refines the history of what was done to it. -/
theorem run_refines (charset : String) (calls : List BuilderCall) : Refines charset calls := by
  have hb := reflects_ofCalls charset calls
  have hconcat : ∀ more, Builder.ofCalls charset (calls ++ more) =
      more.foldl (fun b call => (InPlace.perform call).stateAfter b)
        (Builder.ofCalls charset calls) := fun more => List.foldl_append
  exact {
    describes := hb.describes
    refused := by
      intro call e hrefusal
      rw [InPlace.run_perform]
      rcases hb.perform call with ⟨e', hrefusal', herror⟩ | ⟨hnone, -⟩
      · obtain rfl := Option.some.inj (hrefusal.symm.trans hrefusal')
        rw [herror]
      · exact nomatch hrefusal.symm.trans hnone
    accepted := by
      intro call hnone
      rcases hb.perform call with ⟨e, hrefusal, -⟩ | ⟨-, b', hok, -⟩
      · exact nomatch hnone.symm.trans hrefusal
      · rw [hconcat [call], List.foldl_cons, List.foldl_nil, InPlace.stateAfter,
          InPlace.run_perform, hok]
    closed := by
      intro answer b hbuild more
      have hbuilt := InPlace.built_of_run_build hbuild
      have hstays : more.foldl (fun b call => (InPlace.perform call).stateAfter b) b = b :=
        List.foldl_fixed' (InPlace.stateAfter_of_built hbuilt) more
      refine ⟨?_, fun c => ?_, ?_⟩
      · rw [hconcat, List.foldl_cons, InPlace.stateAfter, hbuild]
        exact hstays
      · rw [InPlace.run_perform, (Builder.perform_of_built hbuilt).1 c]
      · rw [InPlace.run_perform, (Builder.perform_of_built hbuilt).2]
    values := ValueBuilder.ofCalls_eq_ofBuilder charset calls
    steps := by
      intro call
      rw [ValueBuilder.ofCalls_eq_ofBuilder, ValueBuilder.step_ofBuilder, InPlace.run_perform]
      cases (Builder.ofCalls charset calls).perform call <;> rfl }

/-- A body makes an end of the length that was added before it, not of one that is added
later. -/
example :
    (Builder.ofCalls "utf-8"
      [.change (.addHeader "Content-Length" "5"), .change (.setBody "hi"),
        .change (.addHeader "Content-Length" "7")]).snapshot.headers.get? "Content-Length" =
      some ["2", "7"] := by
  rfl

end HttpInterface
