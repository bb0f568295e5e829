import HttpInterface.Proofs.Compile.Method
import HttpInterface.Proofs.RequestLine
import Mathlib.Data.List.Nodup

/-!
# `HttpInterface.Proofs.Compile.Consistency`: what a compiled method holds

A compiled method says for each parameter what it is for, and it has a template.
`AccountsFor` says that the method treats every parameter once: it is bound to its one
name, it is the body or it replaces the base URL, and only a parameter without a name
may be left out, where a body is declared. `Template.Complete` says that the parts of
the template fit together.

`consistent_of_compile` is the main result: both hold of every method that is compiled.

The type of a body is that of a parameter, so where all types can be told (`IsTellable`) the key can
be told, and a method that is compiled can be described.
-/

set_option autoImplicit false

namespace HttpInterface

/-- The parts of a finished template fit together. -/
structure Template.Complete (t : Template) : Prop extends t.Formed where
  /-- The method is one or more of `A` to `Z`. -/
  method : t.method ≠ "" ∧ ∀ c ∈ t.method.toList, 'A' ≤ c ∧ c ≤ 'Z'
  /-- The query is no part of the url. -/
  url : '?' ∉ t.url.toList
  /-- The length of a body that is bytes is the one that is stated. -/
  body_length : ∀ bytes, t.body = some bytes →
    t.headers.get? Header.contentLength = some [lengthText bytes]
  /-- The length of a body template is not stated. -/
  bodyTemplate_length : ∀ text, t.bodyTemplate = some text →
    t.headers.get? Header.contentLength = none

namespace CompiledMethod

/-- The positions of the arguments that have a use. -/
def usedPositions (m : CompiledMethod) : List Int :=
  m.indexToName.keys ++ m.bodyIndex.toList ++ m.urlIndex.toList

/-- The names that arguments are bound to, in order. -/
def boundNames (m : CompiledMethod) : List String :=
  m.indexToName.values.flatten

/-- The method treats every parameter of a declaration once. -/
structure AccountsFor (m : CompiledMethod) (d : Declaration) (r : NameResolver) : Prop where
  /-- No argument has two uses. -/
  disjoint : m.usedPositions.Nodup
  /-- Every argument has a use, but that of a parameter without a name where a body is
  declared. -/
  cover : ∀ i, i ∈ m.usedPositions ↔
    ∃ p ∈ d.parameters, p.index = i ∧ ¬(d.body.isSome = true ∧ r.isUnnamed p = true)
  /-- At most one parameter is left out. -/
  unnamed_once : d.parameters.countP r.isUnnamed ≤ 1
  /-- An argument is bound to the one name of its parameter. -/
  index_to_name : ∀ i names, m.indexToName.get? i = some names ↔
    ∃ p ∈ d.parameters, p.index = i ∧ p.isUrl = false ∧
      ∃ name, r.resolve p = some name ∧ names = [name]
  /-- The argument that replaces the base URL. -/
  url_index : ∀ i, m.urlIndex = some i ↔ ∃ p ∈ d.parameters, p.index = i ∧ p.isUrl = true
  /-- The argument that is the body. -/
  body_index : ∀ i, m.bodyIndex = some i ↔
    d.body = none ∧ ∃ p ∈ d.parameters, p.index = i ∧ r.isUnnamed p = true
  /-- No name is a form parameter twice. -/
  formParams_nodup : m.formParams.Nodup
  /-- The form parameters are the names that stand nowhere in the url, the queries and
  the headers, each where it comes first. -/
  formParams_eq : m.formParams =
    (m.boundNames.filter fun name => !m.template.httpPlaceholders.contains name).eraseDups
  /-- Where an argument is the body, no other body is there and no form parameter, and
  the type of the body is that of its parameter. -/
  body_parameter : ∀ i, m.bodyIndex = some i →
    m.template.body = none ∧ m.template.bodyTemplate = none ∧ m.formParams = [] ∧
      ∃ p ∈ d.parameters, p.index = i ∧ m.bodyType = p.type

end CompiledMethod

namespace Declaration

section

variable {d : Declaration} {charset : String} {draft : Draft}

theorem complete_draft (h : d.draft charset = .ok draft) : draft.template.Complete := by
  obtain ⟨line, hline, -, hset⟩ := draft_eq_ok h
  obtain ⟨hmethod, hurl, -⟩ := target_draft hset
  obtain ⟨hbytes, htemplate⟩ := contentLength_draft hset
  obtain ⟨text, -, hparse⟩ := Option.bind_eq_some_iff.1 hline
  refine ⟨formed_draft hset, ?_, ?_, hbytes, htemplate⟩
  · rw [Draft.template, hmethod]
    exact RequestLine.verb_of_parse? hparse
  · rw [Draft.template, hurl]
    exact PathAndQuery.not_mem_path_parse line.target

end

section

variable {d : Declaration} {r : NameResolver} {draft : Draft} {i : Int}

theorem eq_of_index_eq (h : d.DistinctPositions) {p q : Parameter} (hp : p ∈ d.parameters)
    (hq : q ∈ d.parameters) (heq : p.index = q.index) : p = q :=
  List.inj_on_of_nodup_map h hp hq heq

theorem urlIndex_eq_some_iff (honce : UsesOnce r d.parameters) :
    (d.method r draft).urlIndex = some i ↔
      ∃ p ∈ d.parameters, p.index = i ∧ p.isUrl = true := by
  show (d.parameters.find? (·.isUrl)).map (·.index) = some i ↔ _
  simp only [Option.map_eq_some_iff, find?_eq_some_iff_of_countP_le_one honce.url, and_assoc,
    and_comm (a := Parameter.isUrl _ = true)]

theorem body_eq_some_iff (honce : UsesOnce r d.parameters) {body : Int × TypeExpr} :
    (d.uses r draft).body = some body ↔
      draft.hasBody = false ∧
        ∃ p ∈ d.parameters, r.isUnnamed p = true ∧ (p.index, p.type) = body := by
  show (if draft.hasBody then none
    else (d.parameters.find? r.isUnnamed).map fun p => (p.index, p.type)) = some body ↔ _
  cases draft.hasBody with
  | true => simp
  | false =>
    simp only [Bool.false_eq_true, if_false, Option.map_eq_some_iff,
      find?_eq_some_iff_of_countP_le_one honce.unnamed, and_assoc, true_and]

theorem bodyIndex_eq_some_iff {charset : String} (hdraft : d.draft charset = .ok draft)
    (honce : UsesOnce r d.parameters) :
    (d.method r draft).bodyIndex = some i ↔
      d.body = none ∧ ∃ p ∈ d.parameters, p.index = i ∧ r.isUnnamed p = true := by
  show (d.uses r draft).body.map Prod.fst = some i ↔ _
  simp only [Option.map_eq_some_iff, body_eq_some_iff honce, hasBody_draft hdraft,
    Option.isSome_eq_false_iff, Option.isNone_iff_eq_none]
  constructor
  · rintro ⟨body, ⟨hbody, p, hp, hunnamed, rfl⟩, rfl⟩
    exact ⟨hbody, p, hp, rfl, hunnamed⟩
  · rintro ⟨hbody, p, hp, rfl, hunnamed⟩
    exact ⟨_, ⟨hbody, p, hp, hunnamed, rfl⟩, rfl⟩

/-- Different uses are uses of different parameters. -/
theorem nodup_usedPositions {charset : String} (h : d.DistinctPositions)
    (hdraft : d.draft charset = .ok draft) (honce : UsesOnce r d.parameters) :
    (d.method r draft).usedPositions.Nodup := by
  have hsingle : ∀ o : Option Int, o.toList.Nodup := by
    intro o
    cases o <;> simp
  rw [CompiledMethod.usedPositions, List.nodup_append, List.nodup_append]
  refine ⟨⟨(d.method r draft).indexToName.nodup_keys, hsingle _, ?_⟩, hsingle _, ?_⟩
  · -- A parameter with a name is not the body.
    rintro i hi j hj rfl
    obtain ⟨p, hp, hpi, -, hname⟩ := (mem_keys_indexToName h).1 hi
    obtain ⟨-, q, hq, hqi, hunnamed⟩ :=
      (bodyIndex_eq_some_iff hdraft honce).1 (Option.mem_toList.1 hj)
    obtain rfl := eq_of_index_eq h hp hq (hpi.trans hqi.symm)
    rw [(NameResolver.isUnnamed_iff.1 hunnamed).2] at hname
    exact nomatch hname
  · -- A parameter that is bound or the body does not replace the base URL.
    rintro i hi j hj rfl
    obtain ⟨q, hq, hqi, hqurl⟩ := (urlIndex_eq_some_iff honce).1 (Option.mem_toList.1 hj)
    have hnot : ∃ p ∈ d.parameters, p.index = i ∧ p.isUrl = false := by
      rcases List.mem_append.1 hi with hi | hi
      · obtain ⟨p, hp, hpi, hpurl, -⟩ := (mem_keys_indexToName h).1 hi
        exact ⟨p, hp, hpi, hpurl⟩
      · obtain ⟨-, p, hp, hpi, hunnamed⟩ :=
          (bodyIndex_eq_some_iff hdraft honce).1 (Option.mem_toList.1 hi)
        exact ⟨p, hp, hpi, (NameResolver.isUnnamed_iff.1 hunnamed).1⟩
    obtain ⟨p, hp, hpi, hpurl⟩ := hnot
    obtain rfl := eq_of_index_eq h hp hq (hpi.trans hqi.symm)
    exact nomatch hpurl.symm.trans hqurl

theorem mem_usedPositions {charset : String} (h : d.DistinctPositions)
    (hdraft : d.draft charset = .ok draft) (honce : UsesOnce r d.parameters) :
    i ∈ (d.method r draft).usedPositions ↔
      ∃ p ∈ d.parameters, p.index = i ∧ ¬(d.body.isSome = true ∧ r.isUnnamed p = true) := by
  simp only [CompiledMethod.usedPositions, List.mem_append, Option.mem_toList,
    mem_keys_indexToName h, bodyIndex_eq_some_iff hdraft honce, urlIndex_eq_some_iff honce]
  constructor
  · rintro ((⟨p, hp, hi, hurl, hname⟩ | ⟨hbody, p, hp, hi, -⟩) | ⟨p, hp, hi, hurl⟩)
    · refine ⟨p, hp, hi, fun hleft => ?_⟩
      rw [(NameResolver.isUnnamed_iff.1 hleft.2).2] at hname
      exact nomatch hname
    · refine ⟨p, hp, hi, fun hleft => ?_⟩
      rw [hbody] at hleft
      exact nomatch hleft.1
    · refine ⟨p, hp, hi, fun hleft => ?_⟩
      exact nomatch (NameResolver.isUnnamed_iff.1 hleft.2).1.symm.trans hurl
  · -- A parameter without a name that is not left out is the body.
    rintro ⟨p, hp, hi, hleft⟩
    rcases r.use_cases p with
      ⟨hurl, -, -⟩ | ⟨name, hurl, hname, -, -⟩ | ⟨-, -, -, hunnamed⟩
    · exact Or.inr ⟨p, hp, hi, hurl⟩
    · exact Or.inl (Or.inl ⟨p, hp, hi, hurl, by rw [hname]; rfl⟩)
    · refine Or.inl (Or.inr ⟨?_, p, hp, hi, hunnamed⟩)
      cases hbody : d.body with
      | none => rfl
      | some text => exact absurd ⟨by rw [hbody]; rfl, hunnamed⟩ hleft

/-- Where an argument is the body, there is no other body and no form parameter. -/
theorem body_parameter (honce : UsesOnce r d.parameters)
    (hcheck : d.checkBindings draft.template (d.uses r draft) = .ok ())
    (hi : (d.method r draft).bodyIndex = some i) :
    (d.method r draft).template.body = none ∧ (d.method r draft).template.bodyTemplate = none ∧
      (d.method r draft).formParams = [] ∧
      ∃ p ∈ d.parameters, p.index = i ∧ (d.method r draft).bodyType = p.type := by
  obtain ⟨body, hbody, rfl⟩ := Option.map_eq_some_iff.1 hi
  obtain ⟨hnone, p, hp, -, rfl⟩ := (body_eq_some_iff honce).1 hbody
  obtain ⟨hbytes, htemplate⟩ : draft.body = none ∧ draft.bodyTemplate = none := by
    simpa [Draft.hasBody] using hnone
  refine ⟨hbytes, htemplate, ?_, p, hp, rfl, ?_⟩
  · exact (checkBindings_eq_ok.1 hcheck).2 (by rw [hbody]; rfl)
  · show ((d.uses r draft).body.map Prod.snd).getD .none = p.type
    rw [hbody]
    rfl

end

/-- A method that is compiled treats every parameter once, and the parts of its template
fit together. -/
theorem consistent_of_compile (d : Declaration) (settings : Settings) (r : NameResolver)
    (m : CompiledMethod) (hindices : d.DistinctPositions)
    (hm : (d.compile settings r).result = .ok m) :
    m.AccountsFor d r ∧ m.template.Complete := by
  obtain ⟨draft, hdraft, honce, hcheck, rfl⟩ := compile_eq_ok.1 hm
  refine ⟨?_, complete_draft hdraft⟩
  exact {
    disjoint := nodup_usedPositions hindices hdraft honce
    cover := fun _ => mem_usedPositions hindices hdraft honce
    unnamed_once := honce.unnamed
    index_to_name := fun _ _ => get?_indexToName hindices
    url_index := fun _ => urlIndex_eq_some_iff honce
    body_index := fun _ => bodyIndex_eq_some_iff hdraft honce
    formParams_nodup := nodup_eraseDups _
    formParams_eq := by
      rw [CompiledMethod.boundNames]
      show d.formNames r draft.template =
        ((d.uses r draft).indexToName.values.flatten.filter _).eraseDups
      rw [values_indexToName hindices]
      rfl
    body_parameter := fun _ => body_parameter honce hcheck }

theorem consistent_sample :
    sample.DistinctPositions ∧ (sample.compile {} (.standard true)).result = .ok sampleMethod ∧
      sampleMethod.AccountsFor sample (.standard true) ∧ sampleMethod.template.Complete := by
  have hindices : sample.DistinctPositions := by decide
  exact ⟨hindices, compile_sample,
    consistent_of_compile sample {} _ sampleMethod hindices compile_sample⟩

/-! ### Types that can be told -/

/-- The types of all parameters can be told. -/
def IsTellable (d : Declaration) : Prop :=
  ∀ p ∈ d.parameters, p.type.isTellable = true

theorem IsTellable.hasTellableKey {d : Declaration} (h : d.IsTellable) :
    d.hasTellableKey = true :=
  List.all_eq_true.2 fun p hp => TypeExpr.hasTellableName_of_isTellable (h p hp)

/-- A method that is compiled can be described if its types can be told. -/
theorem IsTellable.isDescribable {d : Declaration} {settings : Settings} {r : NameResolver}
    {m : CompiledMethod} (h : d.IsTellable) (hm : (d.compile settings r).result = .ok m) :
    m.isDescribable = true := by
  obtain ⟨draft, -, honce, hcheck, rfl⟩ := compile_eq_ok.1 hm
  rw [CompiledMethod.isDescribable]
  cases hi : (d.method r draft).bodyIndex with
  | none => rfl
  | some i =>
    obtain ⟨-, -, -, p, hp, -, htype⟩ := body_parameter honce hcheck hi
    rw [htype, h p hp]
    rfl

end Declaration

end HttpInterface
