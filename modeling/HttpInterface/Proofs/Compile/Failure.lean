import HttpInterface.Proofs.Compile.Acceptance

/-!
# `HttpInterface.Proofs.Compile.Failure`: how compilation fails

A declaration that is not compiled has a defect, and the defect carries the key of the
declaration; or its body has no bytes in the charset. `compile_failure` says that there is
nothing else, and `compile_eq_coding` when it is the body: only where the body is encoded at
once, behind a request line and headers that are well-formed.

A builder has failures of its own: it may be used up, and it may lack a method. `changes` is
all that a declaration asks a builder for, and `build_changes` says that the builder hands out the
template of the declaration. It fails for the body only (`bodyFails_of_build`).
-/

set_option autoImplicit false

namespace HttpInterface

namespace Declaration

/-- The body is encoded at once, and the charset fails so. -/
def BodyFails (d : Declaration) (charset : String) (error : CodingError) : Prop :=
  ∃ text, d.body = some text ∧ Placeholder.occursIn text = false ∧
    Charset.encode charset text.toList = .error error

theorem not_bodyFails {d : Declaration} {charset : String} (h : d.BodyHasBytes charset)
    (error : CodingError) : ¬d.BodyFails charset error := by
  rintro ⟨text, hbody, hslots, herror⟩
  obtain ⟨bytes, hok⟩ := h text hbody hslots
  exact nomatch hok.symm.trans herror

section

variable {d : Declaration} {settings : Settings} {r : NameResolver}

theorem setDeclaredBody_of_bodyFails {error : CodingError} {draft : Draft}
    (h : d.BodyFails draft.charset error) : d.setDeclaredBody draft = .error (.coding error) := by
  obtain ⟨text, hbody, hslots, herror⟩ := h
  have hset : draft.setBody text = .error error := by
    rw [Draft.setBody, if_neg (by simp [hslots]), herror]
    rfl
  simp only [setDeclaredBody, hbody, hset]

/-- Making the draft fails in the charset only behind a request line and headers that are
well-formed. -/
theorem draft_eq_coding {charset : String} {error : CodingError} :
    d.draft charset = .error (.coding error) ↔
      d.line?.isSome ∧ (∀ text ∈ d.headers, (Header.parse? text).isSome) ∧
        d.BodyFails charset error := by
  constructor
  · intro h
    have hbody : d.BodyFails charset error := by
      rcases draft_eq_error h with
        ⟨-, he⟩ | ⟨-, -, text, -, -, -, -, he⟩ | ⟨text, hbody, hslots, error', herror, he⟩
      · cases he
      · cases he
      · obtain rfl := CompileError.coding.inj he
        exact ⟨text, hbody, hslots, herror⟩
    -- The first two steps fail with a defect, so both have succeeded.
    rw [draft] at h
    rcases bind_eq_error.1 h with hstart | ⟨started, hstarted, h⟩
    · rw [requestLineDraft] at hstart
      split at hstart
      · cases hstart
      · cases hstart
    · rcases bind_eq_error.1 h with hfold | ⟨headed, hheaded, -⟩
      · obtain ⟨-, text, -, draft, -, -, hadd⟩ := foldlM_eq_error.1 hfold
        cases (parse?_of_addDeclaredHeader hadd).2
      · refine ⟨?_, isSome_of_foldlM_addDeclaredHeader hheaded, hbody⟩
        rw [requestLineDraft] at hstarted
        split at hstarted
        · cases hstarted
        · next line hline => exact Option.isSome_iff_exists.2 ⟨line, hline⟩
  · rintro ⟨hline, hheaders, hbody⟩
    obtain ⟨line, hline⟩ := Option.isSome_iff_exists.1 hline
    rw [draft_of_headers hline hheaders]
    exact setDeclaredBody_of_bodyFails hbody

/-- Behind the draft compilation fails with a defect only. -/
theorem draft_or_defect {e : CompileError} (h : (d.compile settings r).result = .error e) :
    d.draft settings.bodyCharset = .error e ∨ ∃ flaw, e = d.defect flaw := by
  rcases compile_eq_error.1 h with hdraft | ⟨draft, -, h | ⟨-, h⟩⟩
  · exact Or.inl hdraft
  · obtain ⟨-, -, -, flaw, -, -, -, he⟩ := h
    exact Or.inr ⟨flaw, he⟩
  · rcases checkBindings_eq_error.1 h with ⟨-, name, -, -, -, -, he⟩ | ⟨-, -, -, he⟩
    · exact Or.inr ⟨_, he⟩
    · exact Or.inr ⟨_, he⟩

/-- A declaration that is not compiled has a defect, or its body has no bytes. -/
theorem compile_failure {e : CompileError} (h : (d.compile settings r).result = .error e) :
    (∃ flaw, e = d.defect flaw) ∨
      ∃ error, e = .coding error ∧ d.BodyFails settings.bodyCharset error := by
  rcases draft_or_defect h with hdraft | hflaw
  · rcases draft_eq_error hdraft with
      ⟨-, he⟩ | ⟨-, -, text, -, -, -, -, he⟩ | ⟨text, hbody, hslots, error, herror, he⟩
    · exact Or.inl ⟨_, he⟩
    · exact Or.inl ⟨_, he⟩
    · exact Or.inr ⟨error, he, text, hbody, hslots, herror⟩
  · exact Or.inl hflaw

/-- When it is the body: the parameters have not been looked at. -/
theorem compile_eq_coding {error : CodingError} :
    (d.compile settings r).result = .error (.coding error) ↔
      d.line?.isSome ∧ (∀ text ∈ d.headers, (Header.parse? text).isSome) ∧
        d.BodyFails settings.bodyCharset error := by
  rw [← draft_eq_coding]
  constructor
  · intro h
    rcases draft_or_defect h with hdraft | ⟨flaw, he⟩
    · exact hdraft
    · exact nomatch he
  · exact fun h => compile_eq_error.2 (Or.inl h)

end

/-! ### The builder -/

/-- What the request line and the headers ask a builder for. -/
def headedChanges (d : Declaration) (line : RequestLine) : List Change :=
  .setMethod line.verb :: .append line.target ::
    d.parsedHeaders.map fun h => .addHeader h.name h.value

/-- What a declaration asks a builder for, in order. -/
def changes (d : Declaration) (line : RequestLine) : List Change :=
  d.headedChanges line ++ (d.body.map .setBody).toList

/-- The request line and the headers make the draft that has them. -/
theorem foldlM_headedChanges (d : Declaration) (charset : String) (line : RequestLine) :
    (d.headedChanges line).foldlM Draft.change { charset } =
      .ok (d.headedDraft charset line) := by
  -- A header is added behind those of any draft, so the induction is over every draft.
  have key : ∀ (headers : List Header) (draft : Draft),
      (headers.map fun h => Change.addHeader h.name h.value).foldlM Draft.change draft =
        .ok { draft with
          headers := draft.headers.pushAll (headers.map fun h => (h.name, h.value)) } := by
    intro headers
    induction headers with
    | nil => intro draft; rfl
    | cons h rest ih => intro draft; exact ih (draft.addHeader h.name h.value)
  show (d.parsedHeaders.map _).foldlM Draft.change
    (({ charset : Draft }).setMethod line.verb |>.append line.target) = _
  rw [key, Draft.append_eq]
  simp [headedDraft, Draft.setMethod]

/-- Making the changes is setting the declared body behind the request line and the headers. -/
theorem mapError_foldlM_changes (d : Declaration) (charset : String) (line : RequestLine) :
    ((d.changes line).foldlM Draft.change { charset }).mapError .coding =
      d.setDeclaredBody (d.headedDraft charset line) := by
  rw [changes, List.foldlM_append, foldlM_headedChanges, setDeclaredBody]
  cases d.body with
  | none => rfl
  | some text =>
    dsimp only
    show ((d.headedDraft charset line).setBody text >>= Except.ok).mapError CompileError.coding = _
    cases (d.headedDraft charset line).setBody text <;> rfl

end Declaration

namespace Builder

/-- A builder that is open fails only where its draft does. -/
theorem run_eq (draft : Draft) (changes : List Change) :
    (⟨draft, false⟩ : Builder).run changes =
      match changes.foldlM Draft.change draft with
      | .ok draft' => .ok ⟨draft', false⟩
      | .error e => .error (.coding e) := by
  induction changes generalizing draft with
  | nil => rfl
  | cons c rest ih =>
    rw [run, List.foldlM_cons, List.foldlM_cons, change, if_neg (by simp)]
    cases draft.change c with
    | error e => rfl
    | ok draft' => exact ih draft'

end Builder

theorem RequestLine.verb_ne_empty {text : String} {line : RequestLine}
    (h : parse? text = some line) : line.verb.isEmpty = false := by
  unfold parse? at h
  split at h
  next verb rest hcut =>
  split at h
  · next hverb =>
    obtain rfl := Option.some.inj h
    rw [isVerb, Bool.and_eq_true, Bool.not_eq_true'] at hverb
    simpa using hverb.1
  · cases h

namespace Declaration

variable {d : Declaration} {charset : String} {line : RequestLine}

/-- What the builder hands out is the template of the declaration. -/
theorem build_changes (hline : d.line? = some line) {draft : Draft}
    (hset : d.setDeclaredBody (d.headedDraft charset line) = .ok draft) :
    ((Builder.start charset).run (d.changes line) >>= Builder.build) =
      .ok (draft.template, ⟨draft, true⟩) := by
  obtain ⟨text, -, hparse⟩ := Option.bind_eq_some_iff.1 hline
  have hmethod : (draft.method.getD "").isEmpty = false := by
    rw [(target_draft hset).1]
    exact RequestLine.verb_ne_empty hparse
  have hrun := hset
  rw [← mapError_foldlM_changes] at hrun
  rw [Builder.start, Builder.run_eq]
  cases hfold : (d.changes line).foldlM Draft.change { charset } with
  | error e =>
    rw [hfold] at hrun
    exact nomatch hrun
  | ok draft' =>
    rw [hfold] at hrun
    obtain rfl := Except.ok.inj hrun
    show Builder.build ⟨draft', false⟩ = _
    rw [Builder.build, if_neg (by simp), if_neg (by simp [hmethod])]
    rfl

/-- The builder is never used up and never lacks the method: it fails only because the body has
no bytes. -/
theorem bodyFails_of_build (hline : d.line? = some line) {error : BuilderError}
    (h : ((Builder.start charset).run (d.changes line) >>= Builder.build) = .error error) :
    ∃ e, error = .coding e ∧ d.BodyFails charset e := by
  -- The declared body is set, and then the template is handed out, or it fails for the same body.
  cases hset : d.setDeclaredBody (d.headedDraft charset line) with
  | ok draft => exact nomatch (build_changes hline hset).symm.trans h
  | error e =>
    obtain ⟨text, hbody, hslots, error', herror, rfl⟩ := setDeclaredBody_eq_error hset
    rw [← mapError_foldlM_changes] at hset
    rw [Builder.start, Builder.run_eq] at h
    cases hfold : (d.changes line).foldlM Draft.change { charset } with
    | ok draft =>
      rw [hfold] at hset
      exact nomatch hset
    | error e' =>
      rw [hfold] at hset h
      obtain rfl := CompileError.coding.inj (Except.error.inj hset)
      exact ⟨e', (Except.error.inj h).symm, text, hbody, hslots, herror⟩

end Declaration

end HttpInterface
