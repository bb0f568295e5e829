import HttpInterface.CompiledMethod
import HttpInterface.Proofs.Compile.Method
import HttpInterface.Proofs.Expansion
import HttpInterface.Proofs.List
import HttpInterface.Proofs.OrderedMap

/-!
# `HttpInterface.Proofs.Compile.Callable`: what is compiled can be called

Compiling checks that every placeholder of the template has the name of a parameter.
A call binds the names anew, from the positions, and looks them up text by text.
`callable_of_compile` shows that the two fit: a call with an argument for each
parameter finds all its names, and it is refused only because of names that are none
where a text has to be. `Template.noneNames` lists these.

A method binds positions to names. `argumentsByName_eq` says what a row of arguments
becomes if it has an argument for each of these positions: every name with the
argument at its position, and the later one where two positions have one name.
-/

set_option autoImplicit false

namespace HttpInterface

/-! ### The arguments by their names -/

/-- The argument at a position within the arguments. -/
theorem argumentAt_of_lt {args : List Value} {i : Int} (hzero : 0 ≤ i) (hi : i < args.length) :
    argumentAt args i = .ok (args.getD i.toNat .null) := by
  have hlt : i.toNat < args.length := by omega
  have hpos : ¬i < 0 := by omega
  rw [argumentAt]
  simp [hpos, hlt]

theorem mem_of_greatest? {l : List Int} {i : Int} (h : greatest? l = some i) : i ∈ l := by
  have hmax : greatest? l = l.max? := by cases l <;> rfl
  exact List.max?_mem (hmax ▸ h)

namespace CompiledMethod

variable {m : CompiledMethod} {args : List Value}

/-- The bound names in order, each with the argument at its position. -/
def namedArguments (m : CompiledMethod) (args : List Value) : List (String × Value) :=
  m.indexToName.pairs.map fun p => (p.2, args.getD p.1.toNat .null)

theorem map_fst_namedArguments :
    (m.namedArguments args).map Prod.fst = m.indexToName.values.flatten := by
  rw [namedArguments, List.map_map, ← OrderedMap.map_snd_pairs]
  rfl

theorem argumentsByName_eq (h : ∀ i ∈ m.indexToName.keys, 0 ≤ i ∧ i < args.length) :
    m.argumentsByName args = .ok (OrderedMap.ofList (m.namedArguments args)) := by
  have hfold : m.indexToName.entries.foldlM (fun named e =>
      e.2.foldlM (fun named name => do pure (named.insert name (← argumentAt args e.1))) named)
        OrderedMap.empty = .ok (OrderedMap.ofList (m.namedArguments args)) := by
    rw [namedArguments, OrderedMap.pairs, OrderedMap.ofList, List.foldl_map, List.foldl_flatMap]
    simp only [List.foldl_map]
    refine foldlM_eq_ok (fun e he named => foldlM_eq_ok (fun name _ named => ?_) named) _
    obtain ⟨hzero, hi⟩ := h e.1 (List.mem_map.2 ⟨e, he, rfl⟩)
    rw [argumentAt_of_lt hzero hi]
    rfl
  rw [argumentsByName]
  split
  · -- The greatest position is one of the keys, so it lies within the arguments.
    next last hlast =>
    have hlt := (h last (mem_of_greatest? hlast)).2
    rw [if_neg (by omega)]
    exact hfold
  · exact hfold

end CompiledMethod

/-! ### Calls -/

/-- The positions are those from zero on, in some order. -/
structure Declaration.IndexedFromZero (d : Declaration) : Prop where
  distinct : d.DistinctPositions
  bounds : ∀ p ∈ d.parameters, 0 ≤ p.index ∧ p.index < d.parameters.length

/-- What becomes of a call of a method with some arguments. -/
structure CompiledMethod.Callable (m : CompiledMethod) (args : List Value) (charset : String)
    (named : Arguments) : Prop where
  /-- The arguments get their names. -/
  binds : m.argumentsByName args = .ok named
  /-- Every placeholder has an argument. -/
  covers : ∀ name ∈ m.template.placeholders, name ∈ named.keys
  /-- No look-up of a name fails. -/
  found : ∀ name, m.template.expand named charset ≠ .error (.unbound name)
  /-- The call is refused exactly if some names must not be none and are, and these
  names are told. -/
  refused : ∀ names, m.template.expand named charset = .error (.missingValues names) ↔
    names ≠ [] ∧ names = m.template.noneNames named
  /-- No name is told twice. -/
  refused_nodup : (m.template.noneNames named).Nodup
  /-- A name is told if it stands in the url, a query key or the body template and its
  argument is none. -/
  mem_refused : ∀ name, name ∈ m.template.noneNames named ↔ named.get? name = some .null ∧
    ∃ text ∈ m.template.url :: m.template.queries.keys ++ m.template.bodyTemplate.toList,
      name ∈ Placeholder.occurrences text
  /-- Without a body template, a call that is not refused gives a request. -/
  request : m.template.noneNames named = [] → m.template.bodyTemplate = none →
    ∃ request, m.template.expand named charset = .ok request
  /-- With a body template, the text of the body may still have no bytes. -/
  request_or_coding : m.template.noneNames named = [] →
    (∃ request, m.template.expand named charset = .ok request) ∨
      ∃ error, m.template.expand named charset = .error (.coding error)

/-- A call that gives every placeholder an argument. -/
theorem CompiledMethod.callable_of_covers {m : CompiledMethod} {args : List Value}
    {charset : String} {named : Arguments} (hbinds : m.argumentsByName args = .ok named)
    (hcovers : ∀ name ∈ m.template.placeholders, name ∈ named.keys) :
    m.Callable args charset named := by
  have hmissing := Template.missing_eq hcovers
  have hrefused : m.template.noneNames named ≠ [] → m.template.expand named charset =
      .error (.missingValues (m.template.noneNames named)) := by
    intro h
    rw [← hmissing] at h ⊢
    exact Template.expand_of_missing h charset
  exact {
    binds := hbinds
    covers := hcovers
    found := by
      intro name h
      by_cases hnone : m.template.noneNames named = []
      · obtain ⟨_, he⟩ := Template.exists_coding_of_expand (hmissing.trans hnone) h
        exact nomatch he
      · exact nomatch h.symm.trans (hrefused hnone)
    refused := by
      intro names
      by_cases hnone : m.template.noneNames named = []
      · rw [hnone]
        refine ⟨fun h => ?_, fun h => absurd h.2 h.1⟩
        obtain ⟨_, he⟩ := Template.exists_coding_of_expand (hmissing.trans hnone) h
        exact nomatch he
      · rw [hrefused hnone]
        constructor
        · intro h
          obtain rfl := ExpansionError.missingValues.inj (Except.error.inj h)
          exact ⟨hnone, rfl⟩
        · rintro ⟨-, rfl⟩
          rfl
    refused_nodup := (Placeholder.nodup_namesIn _).sublist List.filter_sublist
    mem_refused := fun _ => Template.mem_noneNames
    request := by
      intro hnone hbody
      rcases Template.expand_cases (hmissing.trans hnone) charset with hok | ⟨hsome, -⟩
      · exact hok
      · rw [hbody] at hsome
        exact nomatch hsome
    request_or_coding := by
      intro hnone
      rcases Template.expand_cases (hmissing.trans hnone) charset with hok | ⟨-, herror⟩
      · exact Or.inl hok
      · exact Or.inr herror }

namespace Declaration

/-- A call has an argument for each position that is bound. -/
theorem bounds_indexToName {d : Declaration} (h : d.IndexedFromZero) (r : NameResolver)
    (draft : Draft) {args : List Value} (hargs : d.parameters.length ≤ args.length) :
    ∀ i ∈ (d.method r draft).indexToName.keys, 0 ≤ i ∧ i < args.length := by
  intro i hi
  obtain ⟨p, hp, rfl, -⟩ := (mem_keys_indexToName h.distinct).1 hi
  obtain ⟨hzero, hlt⟩ := h.bounds p hp
  exact ⟨hzero, by omega⟩

/-- What is compiled can be called. -/
theorem callable_of_compile (d : Declaration) (settings : Settings) (r : NameResolver)
    (m : CompiledMethod) (hindices : d.IndexedFromZero)
    (hm : (d.compile settings r).result = .ok m) (args : List Value)
    (hargs : d.parameters.length ≤ args.length) (charset : String) :
    ∃ named, m.Callable args charset named := by
  obtain ⟨draft, hdraft, -, hcheck, rfl⟩ := compile_eq_ok.1 hm
  have hbinds := CompiledMethod.argumentsByName_eq
    (bounds_indexToName hindices r draft hargs)
  -- The names that the check has found bound are the names of the arguments.
  have hcovers : ∀ name ∈ draft.template.placeholders,
      name ∈ (OrderedMap.ofList ((d.method r draft).namedArguments args)).keys := by
    intro name hname
    rw [OrderedMap.mem_keys_ofList, CompiledMethod.map_fst_namedArguments]
    exact (checkBindings_eq_ok.1 hcheck).1 name hname
  exact ⟨_, CompiledMethod.callable_of_covers hbinds hcovers⟩

/-- A call without an item. -/
theorem callable_sample :
    sample.IndexedFromZero ∧ (sample.compile {} (.standard true)).result = .ok sampleMethod ∧
      ∃ named, sampleMethod.Callable
        [.text "a/b", .list [.int 1, .int 2], .null, .text "http://host", .null] "utf-8" named := by
  have hindices : sample.IndexedFromZero := ⟨by decide, by decide⟩
  exact ⟨hindices, compile_sample,
    callable_of_compile sample {} _ sampleMethod hindices compile_sample _ (by decide) "utf-8"⟩

end Declaration

end HttpInterface
