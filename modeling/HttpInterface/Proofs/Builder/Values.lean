import HttpInterface.Proofs.Builder.InPlace
import HttpInterface.Proofs.Record
import HttpInterface.Record.Builder

/-!
# `HttpInterface.Proofs.Builder.Values`: a builder that is given texts as values

A `ValueBuilder` takes any values. Given the texts that a `Builder` is given, it is that builder:
`ofBuilder` writes the parts of a builder as values, and `step_ofBuilder` says that a step
with texts goes from the one picture to the other and answers the same.
-/

set_option autoImplicit false

namespace HttpInterface

/-! ### Entries -/

namespace ValueEntries

variable {α : Type} {write : α → Value}

/-- The entries of a map of lists as a builder collects them. -/
def ofMap (write : α → Value) (m : OrderedMap String (List α)) : ValueEntries :=
  m.entries.map fun e => (.text e.1, e.2.map write)

theorem valuesOf_ofMap (m : OrderedMap String (List α)) (key : String) :
    (ofMap write m).valuesOf (.text key) = ((m.get? key).getD []).map write := by
  rw [valuesOf, ofMap, Value.find?_sameKey (List.map write)]
  cases m.get? key <;> rfl

theorem setValues_ofMap (m : OrderedMap String (List α)) (key : String) (values : List α) :
    setValues (.text key) (values.map write) (ofMap write m) =
      ofMap write (m.insert key values) := by
  rw [ofMap, ofMap, OrderedMap.entries_insert]
  generalize m.entries = entries
  induction entries with
  | nil => rfl
  | cons e rest ih =>
    simp only [List.map_cons, setValues, OrderedMap.setEntry, Value.sameKey_text, beq_iff_eq]
    split
    · next heq => rw [List.map_cons, heq]
    · rw [List.map_cons, ih]

theorem without_ofMap (m : OrderedMap String (List α)) (key : String) :
    (ofMap write m).without (.text key) = ofMap write (m.erase key) := by
  rw [ofMap, ofMap, without, OrderedMap.entries_erase, List.filter_map]
  refine congrArg _ (List.filter_congr fun e _ => ?_)
  rw [Function.comp_apply, Value.sameKey_text]
  by_cases heq : e.1 = key <;> simp [heq]

/-- A value is added as to a map. -/
theorem addTo_ofMap (m : OrderedMap String (List α)) (key : String) (v : α) :
    ValueBuilder.addTo (ofMap write m) (.text key) (write v) =
      .ok (ofMap write (m.push key v)) := by
  have hvalues : (ofMap write m).valuesOf (.text key) ++ [write v] =
      ((m.get? key).getD [] ++ [v]).map write := by
    rw [valuesOf_ofMap, List.map_append]
    rfl
  -- A text is fit for a key.
  show Except.ok _ = _
  rw [hvalues, setValues_ofMap]
  rfl

theorem toValue_ofMap (m : OrderedMap String (List α)) :
    (ofMap write m).toValue =
      .dict (m.entries.map fun e => (.text e.1, .tuple (e.2.map write))) := by
  rw [toValue, ofMap, List.map_map]
  rfl

end ValueEntries

/-! ### Builders -/

/-- A query value as a value. -/
def Value.ofText? (s : Option String) : Value :=
  (s.map .text).getD .null

/-- A builder whose parts are written as values. -/
def ValueBuilder.ofBuilder (b : Builder) : ValueBuilder where
  charset := .text b.draft.charset
  method := .ofText? b.draft.method
  url := b.draft.url
  queries := .ofMap .ofText? b.draft.queries
  headers := .ofMap .text b.draft.headers
  body := b.draft.body
  bodyTemplate := b.draft.bodyTemplate
  built := b.built

/-- A refusal as a builder tells it that is given values. -/
def ValueBuilderError.ofError : BuilderError → ValueBuilderError
  | .consumed operation => .consumed (.text operation.description)
  | .coding e => .coding e
  | .noMethod => .noMethod

/-- What a step gives for what a call gives. -/
def StepResult.ofAnswer : Option Template → StepResult
  | some t => .template t
  | none => .itself

namespace BuilderCall

/-- The member of a builder that makes a call. -/
def member : BuilderCall → String
  | .change (.setMethod _) => "method"
  | .change (.append _) => "append"
  | .change (.addQuery _ _) => "add_query"
  | .change (.addHeader _ _) => "add_header"
  | .change (.setBody _) => "body"
  | .snapshot => "snapshot"
  | .build => "build"

/-- The arguments of a call as values. -/
def arguments : BuilderCall → List Value
  | .change (.setMethod text) | .change (.append text) | .change (.setBody text) => [.text text]
  | .change (.addQuery key value) => [.text key, .ofText? value]
  | .change (.addHeader name value) => [.text name, .text value]
  | .snapshot | .build => []

end BuilderCall

namespace ValueBuilder

/-- What comes of a builder, written as values. -/
def told (result : Except BuilderError Builder) : Except ValueBuilderError ValueBuilder :=
  (result.map ofBuilder).mapError .ofError

/-! ### Changes -/

theorem setMethod_ofBuilder (b : Builder) (method : String) :
    (ofBuilder b).setMethod (.text method) = told (b.change (.setMethod method)) := by
  obtain ⟨draft, built⟩ := b
  cases built <;> rfl

theorem addQuery_ofBuilder (b : Builder) (key : String) (value : Option String) :
    (ofBuilder b).addEntry .query (.text key) (.ofText? value) =
      told (b.change (.addQuery key value)) := by
  have hadd : addTo (ofBuilder b).queries (.text key) (.ofText? value) =
      .ok (.ofMap .ofText? (b.draft.queries.push key value)) := ValueEntries.addTo_ofMap _ _ _
  simp only [addEntry, hadd]
  obtain ⟨draft, built⟩ := b
  cases built <;> rfl

theorem addHeader_ofBuilder (b : Builder) (name value : String) :
    (ofBuilder b).addEntry .header (.text name) (.text value) =
      told (b.change (.addHeader name value)) := by
  have hadd : addTo (ofBuilder b).headers (.text name) (.text value) =
      .ok (.ofMap .text (b.draft.headers.push name value)) := ValueEntries.addTo_ofMap _ _ _
  simp only [addEntry, hadd]
  obtain ⟨draft, built⟩ := b
  cases built <;> rfl

/-- Adding entries to an open builder adds all of them. -/
theorem foldlM_addQuery (entries : List QueryEntry) (draft : Draft) :
    entries.foldlM (fun vb e => vb.addEntry .query (.text e.1) (.ofText? e.2))
        (ofBuilder { draft }) =
      .ok (ofBuilder { draft := entries.foldl (fun d e => d.addQuery e.1 e.2) draft }) := by
  induction entries generalizing draft with
  | nil => rfl
  | cons e rest ih =>
    rw [List.foldlM_cons, addQuery_ofBuilder]
    exact ih (draft.addQuery e.1 e.2)

theorem append_ofBuilder (b : Builder) (text : String) :
    (ofBuilder b).append (.text text) = told (b.change (.append text)) := by
  obtain ⟨draft, built⟩ := b
  cases built with
  | true => rfl
  | false =>
    exact foldlM_addQuery (PathAndQuery.parse text).entries
      { draft with url := draft.url ++ (PathAndQuery.parse text).path }

/-- A body that is encoded at once. -/
theorem literal_ofBuilder (draft : Draft) (text : String) :
    setBody.literal (ofBuilder { draft }) text =
      match Charset.encode draft.charset text.toList with
      | .ok bytes => .ok (ofBuilder { draft := draft.setLiteralBody bytes })
      | .error e => .error (.coding e) := by
  have hlength : ∀ bytes, ValueEntries.setValues lengthKey [.text (lengthText bytes)]
      (ofBuilder { draft }).headers =
        .ofMap .text (draft.headers.insert Header.contentLength [lengthText bytes]) := fun bytes =>
    ValueEntries.setValues_ofMap draft.headers Header.contentLength [lengthText bytes]
  simp only [setBody.literal, hlength]
  show ((Charset.encode draft.charset text.toList).mapError ValueBuilderError.coding >>= _) = _
  cases Charset.encode draft.charset text.toList <;> rfl

/-- A body is searched unless it is empty, and in an empty one there is nothing to find. -/
theorem setBody_text (vb : ValueBuilder) (text : String) (hopen : vb.built = false) :
    vb.setBody (.text text) =
      if Placeholder.occursIn text then
        .ok { vb with
          body := none
          bodyTemplate := some text
          headers := vb.headers.without lengthKey }
      else setBody.literal vb text := by
  have hcheck : vb.checkOpenFor .setBody = .ok () := by
    rw [checkOpenFor, checkOpen, hopen]
    rfl
  -- An empty text is not searched, so it goes to the bytes by another way.
  rw [setBody, hcheck, Value.searched, Value.isTrue]
  by_cases hempty : text = ""
  · subst hempty
    rfl
  · have hfull : text.isEmpty = false := by simp [hempty]
    simp only [hfull]
    rfl

theorem setBody_ofBuilder (b : Builder) (text : String) :
    (ofBuilder b).setBody (.text text) = told (b.change (.setBody text)) := by
  obtain ⟨draft, built⟩ := b
  cases built with
  | true => rfl
  | false =>
    have hwithout : (ofBuilder { draft }).headers.without lengthKey =
        .ofMap .text (draft.headers.erase Header.contentLength) :=
      ValueEntries.without_ofMap draft.headers Header.contentLength
    rw [setBody_text _ _ rfl, hwithout, literal_ofBuilder, told, Builder.change, Draft.change,
      Draft.setBody]
    by_cases hslots : Placeholder.occursIn text = true
    · rw [if_pos hslots, if_pos hslots]
      rfl
    · rw [if_neg hslots, if_neg hslots]
      cases Charset.encode draft.charset text.toList <;> rfl

/-! ### Templates -/

/-- A method is asked for its truth, and the empty text stands for no method. -/
theorem method_ofBuilder (b : Builder) :
    (if (ofBuilder b).method.isTrue then (ofBuilder b).method else .text "") =
        .text (b.draft.method.getD "") ∧
      (ofBuilder b).method.isTrue = !(b.draft.method.getD "").isEmpty := by
  obtain ⟨⟨_, method, _⟩, _⟩ := b
  cases method with
  | none => exact ⟨rfl, rfl⟩
  | some method =>
    refine ⟨?_, rfl⟩
    by_cases hempty : method = ""
    · subst hempty
      rfl
    · have htrue : (Value.text method).isTrue = true := by simp [Value.isTrue, hempty]
      exact if_pos htrue

/-- Every part of the builder is what its field asks for. -/
theorem snapshot_ofBuilder (b : Builder) : (ofBuilder b).snapshot = .ok b.snapshot := by
  have hqueries : Record.mapping Record.text (Record.sequence (Record.optional Record.text))
      (ofBuilder b).queries.toValue = .ok b.draft.queries := by
    show Record.mapping _ _ (ValueEntries.ofMap Value.ofText? b.draft.queries).toValue = _
    rw [ValueEntries.toValue_ofMap]
    exact Record.mapping_dict Record.text_text (Record.sequence_tuple Record.optional_text) _
  have hheaders : Record.mapping Record.text Record.texts (ofBuilder b).headers.toValue =
      .ok b.draft.headers := by
    show Record.mapping _ _ (ValueEntries.ofMap Value.text b.draft.headers).toValue = _
    rw [ValueEntries.toValue_ofMap]
    exact Record.mapping_dict Record.text_text Record.texts_tuple _
  rw [snapshot, (method_ofBuilder b).1]
  simp only [Template.ofFields, Record.queries, Record.headers, Record.body]
  rw [Record.required_eq_ok rfl (Record.text_text _),
    Record.withDefault_eq_ok rfl (Record.text_text _),
    Record.withDefault_eq_ok rfl hqueries, Record.withDefault_eq_ok rfl hheaders,
    Record.withDefault_eq_ok rfl (Record.optional_bytes b.draft.body),
    Record.withDefault_eq_ok rfl (Record.optional_text b.draft.bodyTemplate)]
  rfl

theorem build_ofBuilder (b : Builder) :
    (ofBuilder b).build =
      match b.build with
      | .ok (t, b') => .ok (t, ofBuilder b')
      | .error e => .error (.ofError e) := by
  obtain ⟨draft, built⟩ := b
  cases built with
  | true => rfl
  | false =>
    have hopen : (ofBuilder { draft }).checkOpenFor .build = .ok () := rfl
    rw [build, Builder.build, hopen, (method_ofBuilder _).2, snapshot_ofBuilder]
    cases (draft.method.getD "").isEmpty <;> rfl

/-! ### Steps -/

/-- A call of a function of builders, with arguments that fit it, is a step. -/
theorem step_of_parameters (vb : ValueBuilder) {name : String} {args : List Value}
    {names : List String} {optional : Nat} (hname : name ≠ "has_body")
    (hparameters : parameters? name = some (names, optional))
    (hargs : checkArguments name names optional args = .ok ()) :
    vb.step name args = vb.callWith name args := by
  rw [step, if_neg hname, hparameters]
  show (checkArguments name names optional args >>= fun _ => vb.callWith name args) = _
  rw [hargs]
  rfl

/-- A call is a step: its arguments fit the member that makes it. -/
theorem step_call (vb : ValueBuilder) (call : BuilderCall) :
    vb.step call.member call.arguments = vb.callWith call.member call.arguments := by
  cases call with
  | change c =>
    cases c <;>
      exact step_of_parameters vb (by simp only [BuilderCall.member]; decide) rfl rfl
  | snapshot => exact step_of_parameters vb (by decide) rfl rfl
  | build => exact step_of_parameters vb (by decide) rfl rfl

/-- A change gives the builder itself. -/
theorem step_of_change (b : Builder) (c : Change) :
    (do pure (← told (b.change c), StepResult.itself)) =
      match b.perform (.change c) with
      | .ok b' => .ok (ofBuilder b', .itself)
      | .error e => .error (.ofError e) := by
  rw [told, Builder.perform]
  cases b.change c <;> rfl

/-- A step with texts is the call of a builder that is given texts. -/
theorem step_ofBuilder (b : Builder) (call : BuilderCall) :
    (ofBuilder b).step call.member call.arguments =
      match b.perform call with
      | .ok b' => .ok (ofBuilder b', .ofAnswer (call.answer b))
      | .error e => .error (.ofError e) := by
  rw [step_call]
  cases call with
  | change c =>
    refine Eq.trans ?_ (step_of_change b c)
    cases c with
    | setMethod method => rw [← setMethod_ofBuilder]; rfl
    | append text => rw [← append_ofBuilder]; rfl
    | addQuery key value => rw [← addQuery_ofBuilder]; rfl
    | addHeader name value => rw [← addHeader_ofBuilder]; rfl
    | setBody text => rw [← setBody_ofBuilder]; rfl
  | snapshot =>
    show (do pure (ofBuilder b, StepResult.template (← (ofBuilder b).snapshot))) = _
    rw [snapshot_ofBuilder]
    rfl
  | build =>
    show ((ofBuilder b).build >>= fun built => pure (built.2, StepResult.template built.1)) = _
    rw [build_ofBuilder, Builder.perform, Builder.build]
    -- The template that is handed out is the one before the builder is used up.
    cases b.built with
    | true => rfl
    | false => cases (b.draft.method.getD "").isEmpty <;> rfl

/-- The builder after a step, or as it was if the step fails. -/
def stateAfter (vb : ValueBuilder) (call : BuilderCall) : ValueBuilder :=
  match vb.step call.member call.arguments with
  | .ok (vb', _) => vb'
  | .error _ => vb

/-- The builder in place and the builder that is given values go from one picture to the
other. -/
theorem stateAfter_ofBuilder (b : Builder) (call : BuilderCall) :
    (ofBuilder b).stateAfter call = ofBuilder ((InPlace.perform call).stateAfter b) := by
  rw [stateAfter, step_ofBuilder, InPlace.stateAfter, InPlace.run_perform]
  cases b.perform call <;> rfl

end ValueBuilder

end HttpInterface
