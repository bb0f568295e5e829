import HttpInterface.Proofs.Compile.Method

/-!
# `HttpInterface.Proofs.Compile.Acceptance`: which declarations are compiled

`WellFormed` lists the rules of a declaration, read off the declaration alone.
`FirstViolation` says for a declaration that breaks some of them which one is reported:
the rules are checked in the order of its constructors, and several parts that break
one rule in the order in which they are declared.

`compile_accepts_iff` is the main result. It needs the positions of the parameters to
be different, since a parameter would else take the name of another from it, and the
body to have bytes in its charset, which is no rule about declarations.
-/

set_option autoImplicit false

namespace HttpInterface.Declaration

/-- The rules that a declaration keeps. -/
structure WellFormed (d : Declaration) (r : NameResolver) : Prop where
  /-- There is a request line, and a verb in it. -/
  verb : d.line?.isSome
  /-- Every header is a name, a colon and a value. -/
  headers : ∀ text ∈ d.headers, (Header.parse? text).isSome
  /-- At most one parameter replaces the base URL. -/
  url_once : d.parameters.countP (·.isUrl) ≤ 1
  /-- At most one parameter has no name. -/
  unnamed_once : d.parameters.countP r.isUnnamed ≤ 1
  /-- Every placeholder is the name of a parameter. -/
  bound : ∀ line, d.line? = some line → ∀ text ∈ d.sites line,
    ∀ name ∈ Placeholder.occurrences text,
      ∃ p ∈ d.parameters, p.isUrl = false ∧ r.resolve p = some name
  /-- Where a parameter is the body, no parameter is a form parameter. -/
  no_form : ∀ line, d.line? = some line → d.body = none →
    (∃ p ∈ d.parameters, p.isUrl = false ∧ r.resolve p = none) →
    ∀ p ∈ d.parameters, p.isUrl = false → ∀ name, r.resolve p = some name →
      ∃ text ∈ d.httpSites line, name ∈ Placeholder.occurrences text

/-- The body, if it is encoded at once, has bytes in the charset. -/
def BodyHasBytes (d : Declaration) (charset : String) : Prop :=
  ∀ text, d.body = some text → Placeholder.occursIn text = false →
    ∃ bytes, Charset.encode charset text.toList = .ok bytes

/-- The first rule that a declaration breaks, with its flaw. -/
inductive FirstViolation (d : Declaration) (charset : String) (r : NameResolver) : Flaw → Prop
  /-- There is no request line, or no verb in it. -/
  | verb : d.line? = none → FirstViolation d charset r (.missingRequestLine d.methodName)
  /-- The first header that is not well-formed. -/
  | header {front back : List String} {text : String} :
      d.line?.isSome → d.headers = front ++ text :: back →
      (∀ t ∈ front, (Header.parse? t).isSome) → Header.parse? text = none →
      FirstViolation d charset r (.malformedHeader text)
  /-- The first parameter that repeats a use. -/
  | parameter {draft : Draft} {front back : List Parameter} {p : Parameter} {flaw : Flaw} :
      d.draft charset = .ok draft → d.parameters = front ++ p :: back → UsesOnce r front →
      d.Repeats r front p flaw → FirstViolation d charset r flaw
  /-- The first placeholder of the template that is bound to no parameter. -/
  | placeholder {draft : Draft} {front back : List String} {name : String} :
      d.draft charset = .ok draft → UsesOnce r d.parameters →
      draft.template.placeholders = front ++ name :: back →
      (∀ n ∈ front, n ∈ r.names d.parameters) → name ∉ r.names d.parameters →
      FirstViolation d charset r (.unresolvedPlaceholder name)
  /-- A body parameter beside form parameters. -/
  | form {draft : Draft} :
      d.draft charset = .ok draft → UsesOnce r d.parameters →
      (∀ name ∈ draft.template.placeholders, name ∈ r.names d.parameters) →
      d.body = none → d.parameters.any r.isUnnamed = true →
      d.formNames r draft.template ≠ [] →
      FirstViolation d charset r (.formParametersWithBody (d.formNames r draft.template))

section

variable {d : Declaration} {settings : Settings} {r : NameResolver}

/-! ### What a violation makes of a declaration -/

theorem draft_of_first_malformed {charset : String} {front back : List String} {text : String}
    (hline : d.line?.isSome) (hheaders : d.headers = front ++ text :: back)
    (hfront : ∀ t ∈ front, (Header.parse? t).isSome) (htext : Header.parse? text = none) :
    d.draft charset = .error (d.defect (.malformedHeader text)) := by
  obtain ⟨line, hline⟩ := Option.isSome_iff_exists.1 hline
  have hadd : ∀ draft,
      d.addDeclaredHeader draft text = .error (d.defect (.malformedHeader text)) := by
    intro draft
    rw [addDeclaredHeader, htext]
  rw [draft, requestLineDraft_of_line? hline]
  show (d.headers.foldlM d.addDeclaredHeader _ >>= d.setDeclaredBody) = _
  rw [bind_eq_error]
  left
  rw [foldlM_eq_error]
  exact ⟨front, text, back, _, hheaders, foldlM_addDeclaredHeader d hfront _, hadd _⟩

/-- A violation is reported. -/
theorem FirstViolation.reported (hindices : d.DistinctPositions) {flaw : Flaw}
    (h : d.FirstViolation settings.bodyCharset r flaw) :
    (d.compile settings r).result = .error (d.defect flaw) := by
  rw [compile_eq_error]
  cases h with
  | verb hline =>
    left
    rw [draft, requestLineDraft, show d.requestLine.bind RequestLine.parse? = none from hline]
    rfl
  | header hline hheaders hfront htext =>
    exact Or.inl (draft_of_first_malformed hline hheaders hfront htext)
  | parameter hdraft hsplit hfront hrepeats =>
    exact Or.inr ⟨_, hdraft, Or.inl ⟨_, _, _, _, hsplit, hfront, hrepeats, rfl⟩⟩
  | placeholder hdraft honce hsplit hfront hname =>
    refine Or.inr ⟨_, hdraft, Or.inr ⟨honce, checkBindings_eq_error.2 (Or.inl ?_)⟩⟩
    rw [values_indexToName hindices]
    exact ⟨_, _, _, hsplit, hfront, hname, rfl⟩
  | form hdraft honce hbound hbody hunnamed hform =>
    refine Or.inr ⟨_, hdraft, Or.inr ⟨honce, checkBindings_eq_error.2 (Or.inr ?_)⟩⟩
    rw [values_indexToName hindices, isSome_body_uses, hasBody_draft hdraft]
    exact ⟨hbound, by simp [hbody, hunnamed], hform, rfl⟩

/-- Whatever is reported is a violation. -/
theorem firstViolation_of_reported (hindices : d.DistinctPositions)
    (hbytes : d.BodyHasBytes settings.bodyCharset) {e : CompileError}
    (h : (d.compile settings r).result = .error e) :
    ∃ flaw, d.FirstViolation settings.bodyCharset r flaw ∧ e = d.defect flaw := by
  rcases compile_eq_error.1 h with hdraft | ⟨draft, hdraft, h | ⟨honce, h⟩⟩
  · rcases draft_eq_error hdraft with
      ⟨hline, he⟩ | ⟨hline, front, text, back, hsplit, hfront, htext, he⟩ |
        ⟨text, hbody, hslots, error, herror, -⟩
    · exact ⟨_, .verb hline, he⟩
    · exact ⟨_, .header hline hsplit hfront htext, he⟩
    · -- The body has bytes, so it cannot have failed.
      obtain ⟨bytes, hok⟩ := hbytes text hbody hslots
      exact nomatch hok.symm.trans herror
  · obtain ⟨front, p, back, flaw, hsplit, hfront, hrepeats, he⟩ := h
    exact ⟨flaw, .parameter hdraft hsplit hfront hrepeats, he⟩
  · rcases checkBindings_eq_error.1 h with
      ⟨front, name, back, hsplit, hfront, hname, he⟩ | ⟨hbound, hbody, hform, he⟩
    · rw [values_indexToName hindices] at hfront hname
      exact ⟨_, .placeholder hdraft honce hsplit hfront hname, he⟩
    · rw [values_indexToName hindices] at hbound
      rw [isSome_body_uses, hasBody_draft hdraft] at hbody
      obtain ⟨hnone, hunnamed⟩ : d.body = none ∧ d.parameters.any r.isUnnamed = true := by
        simpa using hbody
      exact ⟨_, .form hdraft honce hbound hnone hunnamed hform, he⟩

/-! ### Well-formed declarations -/

/-- The rules that are checked once the draft is made. -/
theorem wellFormed_iff_of_draft {charset : String} {draft : Draft}
    (hdraft : d.draft charset = .ok draft) :
    d.WellFormed r ↔ UsesOnce r d.parameters ∧
      (∀ name ∈ draft.template.placeholders, name ∈ r.names d.parameters) ∧
      (d.body = none → d.parameters.any r.isUnnamed = true →
        d.formNames r draft.template = []) := by
  obtain ⟨line, hline, hheaders, hset⟩ := draft_eq_ok hdraft
  -- The names of the template are read off the declaration, so that both sides speak of
  -- the same texts.
  have hunique : ∀ line', d.line? = some line' → line' = line := fun line' h =>
    Option.some.inj (h.symm.trans hline)
  simp only [formNames_eq_nil_iff, mem_placeholders_draft hset, mem_httpPlaceholders_draft hset,
    NameResolver.mem_names, List.any_eq_true, NameResolver.isUnnamed_iff]
  constructor
  · intro h
    refine ⟨⟨h.url_once, h.unnamed_once⟩, ?_, ?_⟩
    · rintro name ⟨text, htext, hname⟩
      exact h.bound line hline text htext name hname
    · rintro hbody hunnamed name ⟨p, hp, hurl, hname⟩
      exact h.no_form line hline hbody hunnamed p hp hurl name hname
  · rintro ⟨honce, hbound, hform⟩
    refine ⟨by simp [hline], hheaders, honce.url, honce.unnamed, ?_, ?_⟩
    · intro line' hline' text htext name hname
      obtain rfl := hunique line' hline'
      exact hbound name ⟨text, htext, hname⟩
    · intro line' hline' hbody hunnamed p hp hurl name hname
      obtain rfl := hunique line' hline'
      exact hform hbody hunnamed name ⟨p, hp, hurl, hname⟩

theorem wellFormed_of_compile (hindices : d.DistinctPositions) {m : CompiledMethod}
    (h : (d.compile settings r).result = .ok m) : d.WellFormed r := by
  obtain ⟨draft, hdraft, honce, hcheck, -⟩ := compile_eq_ok.1 h
  obtain ⟨hbound, hform⟩ := checkBindings_eq_ok.1 hcheck
  rw [values_indexToName hindices] at hbound
  rw [isSome_body_uses, hasBody_draft hdraft] at hform
  refine (wellFormed_iff_of_draft hdraft).2 ⟨honce, hbound, fun hbody hunnamed => hform ?_⟩
  simp [hbody, hunnamed]

/-- A declaration that breaks a rule is not well-formed. -/
theorem FirstViolation.not_wellFormed {charset : String} {flaw : Flaw}
    (h : d.FirstViolation charset r flaw) : ¬d.WellFormed r := by
  intro hwell
  cases h with
  | verb hline =>
    have hsome := hwell.verb
    rw [hline] at hsome
    exact nomatch hsome
  | @header front back text _ hheaders _ htext =>
    have hsome := hwell.headers text (by rw [hheaders]; simp)
    rw [htext] at hsome
    exact nomatch hsome
  | @parameter _ front back p flaw hdraft hsplit _ hrepeats =>
    have honce : UsesOnce r (front ++ [p]) :=
      UsesOnce.of_append ⟨hwell.url_once, hwell.unnamed_once⟩ back (by simp [hsplit])
    exact ((usesOnce_concat d).1 honce).2 flaw hrepeats
  | @placeholder _ front back name hdraft _ hsplit _ hname =>
    have hbound := ((wellFormed_iff_of_draft hdraft).1 hwell).2.1
    exact hname (hbound name (by rw [hsplit]; simp))
  | form hdraft _ _ hbody hunnamed hform =>
    exact hform (((wellFormed_iff_of_draft hdraft).1 hwell).2.2 hbody hunnamed)

end

/-- A declaration is compiled exactly if it is well-formed. If it is not, the first rule
that it breaks is reported. -/
theorem compile_accepts_iff (d : Declaration) (settings : Settings) (r : NameResolver)
    (hindices : d.DistinctPositions) (hbytes : d.BodyHasBytes settings.bodyCharset) :
    ((∃ m, (d.compile settings r).result = .ok m) ↔ d.WellFormed r) ∧
      ∀ e, (d.compile settings r).result = .error e ↔
        ∃ flaw, d.FirstViolation settings.bodyCharset r flaw ∧ e = d.defect flaw := by
  refine ⟨⟨fun ⟨m, hm⟩ => wellFormed_of_compile hindices hm, fun hwell => ?_⟩, fun e => ⟨?_, ?_⟩⟩
  · -- A declaration that is refused breaks a rule.
    cases hresult : (d.compile settings r).result with
    | ok m => exact ⟨m, rfl⟩
    | error e =>
      obtain ⟨flaw, hflaw, -⟩ := firstViolation_of_reported hindices hbytes hresult
      exact absurd hwell hflaw.not_wellFormed
  · exact firstViolation_of_reported hindices hbytes
  · rintro ⟨flaw, hflaw, rfl⟩
    exact hflaw.reported hindices

theorem compile_accepts_sample :
    sample.DistinctPositions ∧ sample.BodyHasBytes "utf-8" ∧
      ∃ m, (sample.compile {} (.standard true)).result = .ok m := by
  have hindices : sample.DistinctPositions := by decide
  have hbytes : sample.BodyHasBytes "utf-8" := by
    intro text htext hslots
    obtain rfl := Option.some.inj htext
    exact absurd hslots (by decide)
  refine ⟨hindices, hbytes, (compile_accepts_iff sample {} _ hindices hbytes).1.2 ?_⟩
  have hline : sample.line? = some ⟨"POST", "/shops/{shop}/orders?tag={tag}"⟩ := by decide
  refine ⟨by decide, by decide, by decide, by decide, ?_, fun _ _ hbody => nomatch hbody⟩
  intro line h
  obtain rfl := Option.some.inj (h.symm.trans hline)
  decide

end HttpInterface.Declaration
