import HttpInterface.Proofs.Compile.Bindings
import HttpInterface.Proofs.Compile.Draft

/-!
# `HttpInterface.Proofs.Compile.Method`: from a declaration to its method

Compiling makes the draft, gives every parameter its use and checks the uses.
`method` is what comes out of it, put together from the draft and from `usesOf`,
without any of the steps. `compile_eq_ok` says when a declaration is compiled and that
`method` is the result; `compile_eq_error` says which of the three stages failed.
-/

set_option autoImplicit false

namespace HttpInterface.Declaration

/-- What the uses of the parameters depend on, once the draft is made. -/
def context (d : Declaration) (r : NameResolver) (draft : Draft) : BindingContext :=
  ⟨d, r, draft.template.httpPlaceholders, draft.hasBody⟩

/-- The uses of all parameters. -/
def uses (d : Declaration) (r : NameResolver) (draft : Draft) : Bindings :=
  usesOf (d.context r draft) d.parameters

/-- The method that is made of a template and the uses of the parameters. -/
def assemble (d : Declaration) (t : Template) (b : Bindings) : CompiledMethod where
  configKey := d.configKey
  template := t
  formParams := b.formParams
  indexToName := b.indexToName
  bodyIndex := b.body.map Prod.fst
  bodyType := (b.body.map Prod.snd).getD .none
  urlIndex := b.urlIndex
  returnType := d.returnType

/-- The method that is made of a draft. -/
def method (d : Declaration) (r : NameResolver) (draft : Draft) : CompiledMethod :=
  d.assemble draft.template (d.uses r draft)

/-- The names that no placeholder of the url, the queries and the headers has, each
once. -/
def formNames (d : Declaration) (r : NameResolver) (t : Template) : List String :=
  ((r.names d.parameters).filter fun name => !t.httpPlaceholders.contains name).eraseDups

/-- The positions of the parameters are pairwise different. -/
def DistinctPositions (d : Declaration) : Prop :=
  (d.parameters.map (·.index)).Nodup

instance (d : Declaration) : Decidable d.DistinctPositions :=
  inferInstanceAs (Decidable (List.Nodup _))

section

variable {d : Declaration} {r : NameResolver} {draft : Draft}

/-- Where positions are different, no parameter takes the place of another. -/
theorem entries_indexToName (h : d.DistinctPositions) :
    (d.uses r draft).indexToName.entries = r.positions d.parameters := by
  refine OrderedMap.entries_ofList ?_
  show ((r.positions d.parameters).map Prod.fst).Nodup
  rw [NameResolver.map_fst_positions]
  exact h.sublist (List.filter_sublist.map _)

/-- The names that are bound are those of the parameters. -/
theorem values_indexToName (h : d.DistinctPositions) :
    (d.uses r draft).indexToName.values.flatten = r.names d.parameters := by
  rw [OrderedMap.values, entries_indexToName h, NameResolver.flatten_snd_positions]

/-- A name that is bound is one of a parameter, also where positions repeat. -/
theorem mem_names_of_mem_values {name : String}
    (h : name ∈ (d.uses r draft).indexToName.values.flatten) : name ∈ r.names d.parameters := by
  rw [← NameResolver.flatten_snd_positions]
  obtain ⟨names, hnames, hname⟩ := List.mem_flatten.1 h
  obtain ⟨e, he, rfl⟩ := List.mem_map.1 hnames
  have he : e ∈ r.positions d.parameters := OrderedMap.mem_of_mem_entries_ofList he
  exact List.mem_flatten.2 ⟨e.2, List.mem_map_of_mem he, hname⟩

/-- Which argument a method binds to which names. -/
theorem get?_indexToName (h : d.DistinctPositions) {i : Int} {names : List String} :
    (d.method r draft).indexToName.get? i = some names ↔
      ∃ p ∈ d.parameters, p.index = i ∧ p.isUrl = false ∧
        ∃ name, r.resolve p = some name ∧ names = [name] := by
  rw [OrderedMap.get?_eq_some_iff]
  show (i, names) ∈ (d.uses r draft).indexToName.entries ↔ _
  rw [entries_indexToName h, NameResolver.positions]
  simp only [List.mem_filterMap, Option.map_eq_some_iff, NameResolver.nameOf?_eq_some_iff,
    Prod.mk.injEq]
  constructor
  · rintro ⟨p, hp, name, ⟨hurl, hname⟩, hi, rfl⟩
    exact ⟨p, hp, hi, hurl, name, hname, rfl⟩
  · rintro ⟨p, hp, hi, hurl, name, hname, rfl⟩
    exact ⟨p, hp, name, ⟨hurl, hname⟩, hi, rfl⟩

theorem mem_keys_indexToName (h : d.DistinctPositions) {i : Int} :
    i ∈ (d.method r draft).indexToName.keys ↔
      ∃ p ∈ d.parameters, p.index = i ∧ p.isUrl = false ∧ (r.resolve p).isSome := by
  constructor
  · intro hi
    obtain ⟨names, hnames⟩ := OrderedMap.exists_get?_of_mem_keys hi
    obtain ⟨p, hp, hindex, hurl, name, hname, -⟩ := (get?_indexToName h).1 hnames
    exact ⟨p, hp, hindex, hurl, by rw [hname]; rfl⟩
  · rintro ⟨p, hp, hindex, hurl, hname⟩
    obtain ⟨name, hname⟩ := Option.isSome_iff_exists.1 hname
    have hget : (d.method r draft).indexToName.get? i = some [name] :=
      (get?_indexToName h).2 ⟨p, hp, hindex, hurl, name, hname, rfl⟩
    -- A position with names is a key.
    refine Decidable.byContradiction fun hno => ?_
    rw [OrderedMap.get?_eq_none_iff.2 hno] at hget
    exact nomatch hget

theorem formNames_eq_nil_iff {t : Template} :
    d.formNames r t = [] ↔ ∀ name ∈ r.names d.parameters, name ∈ t.httpPlaceholders := by
  rw [formNames, List.eq_nil_iff_forall_not_mem]
  simp

/-- There is a body parameter exactly if no body is declared and some parameter has no
name. -/
theorem isSome_body_uses :
    (d.uses r draft).body.isSome = (!draft.hasBody && d.parameters.any r.isUnnamed) := by
  show (if draft.hasBody then none else _).isSome = _
  cases draft.hasBody with
  | true => rfl
  | false =>
    rw [if_neg Bool.false_ne_true, Option.isSome_map, List.isSome_find?]
    rfl

end

/-! ### The check of the uses -/

section

variable {d : Declaration} {t : Template} {b : Bindings}

theorem checkBindings_of_find? {name : String}
    (h : t.placeholders.find? (!b.indexToName.values.flatten.contains ·) = some name) :
    d.checkBindings t b = .error (d.defect (.unresolvedPlaceholder name)) := by
  simp only [checkBindings, h]
  rfl

theorem checkBindings_of_bound
    (h : ∀ name ∈ t.placeholders, name ∈ b.indexToName.values.flatten) :
    d.checkBindings t b =
      if b.body.isSome && !b.formParams.isEmpty then
        .error (d.defect (.formParametersWithBody b.formParams))
      else .ok () := by
  have hfind : t.placeholders.find? (!b.indexToName.values.flatten.contains ·) = none := by
    rw [List.find?_eq_none]
    intro name hname
    simpa using h name hname
  simp only [checkBindings, hfind]
  rfl

/-- Either every placeholder is bound, or there is a first one that is not. -/
theorem bound_or_first_unbound (placeholders bound : List String) :
    (∀ name ∈ placeholders, name ∈ bound) ∨
      ∃ front name back, placeholders = front ++ name :: back ∧ (∀ n ∈ front, n ∈ bound) ∧
        name ∉ bound ∧ placeholders.find? (!bound.contains ·) = some name := by
  cases hfind : placeholders.find? (!bound.contains ·) with
  | none => exact Or.inl fun name hname => by simpa using List.find?_eq_none.1 hfind name hname
  | some name =>
    obtain ⟨hname, front, back, hsplit, hfront⟩ := List.find?_eq_some_iff_append.1 hfind
    exact Or.inr ⟨front, name, back, hsplit, fun n hn => by simpa using hfront n hn,
      by simpa using hname, rfl⟩

theorem checkBindings_eq_ok :
    d.checkBindings t b = .ok () ↔
      (∀ name ∈ t.placeholders, name ∈ b.indexToName.values.flatten) ∧
        (b.body.isSome = true → b.formParams = []) := by
  rcases bound_or_first_unbound t.placeholders b.indexToName.values.flatten with
    hbound | ⟨front, name, back, hsplit, -, hname, hfind⟩
  · rw [checkBindings_of_bound hbound]
    split
    · next h =>
      have h : b.body.isSome = true ∧ b.formParams ≠ [] := by simpa using h
      exact ⟨fun h' => (nomatch h'), fun h' => absurd (h'.2 h.1) h.2⟩
    · next h =>
      have h : b.body.isSome = true → b.formParams = [] := by simpa using h
      exact ⟨fun _ => ⟨hbound, h⟩, fun _ => rfl⟩
  · rw [checkBindings_of_find? hfind]
    refine ⟨fun h' => (nomatch h'), fun h' => absurd (h'.1 name ?_) hname⟩
    rw [hsplit]
    exact List.mem_append_right _ List.mem_cons_self

/-- The check fails at the first placeholder that is not bound, or else because of form
parameters beside a body. -/
theorem checkBindings_eq_error {e : CompileError} :
    d.checkBindings t b = .error e ↔
      (∃ front name back, t.placeholders = front ++ name :: back ∧
        (∀ n ∈ front, n ∈ b.indexToName.values.flatten) ∧
        name ∉ b.indexToName.values.flatten ∧ e = d.defect (.unresolvedPlaceholder name)) ∨
      ((∀ name ∈ t.placeholders, name ∈ b.indexToName.values.flatten) ∧ b.body.isSome = true ∧
        b.formParams ≠ [] ∧ e = d.defect (.formParametersWithBody b.formParams)) := by
  constructor
  · intro h
    rcases bound_or_first_unbound t.placeholders b.indexToName.values.flatten with
      hbound | ⟨front, name, back, hsplit, hfront, hname, hfind⟩
    · right
      rw [checkBindings_of_bound hbound] at h
      split at h
      · next hform =>
        have hform : b.body.isSome = true ∧ b.formParams ≠ [] := by simpa using hform
        exact ⟨hbound, hform.1, hform.2, (Except.error.inj h).symm⟩
      · exact nomatch h
    · left
      rw [checkBindings_of_find? hfind] at h
      exact ⟨front, name, back, hsplit, hfront, hname, (Except.error.inj h).symm⟩
  · rintro (⟨front, name, back, hsplit, hfront, hname, rfl⟩ | ⟨hbound, hbody, hform, rfl⟩)
    · refine checkBindings_of_find? (List.find?_eq_some_iff_append.2 ⟨by simpa using hname, ?_⟩)
      exact ⟨front, back, hsplit, fun n hn => by simpa using hfront n hn⟩
    · rw [checkBindings_of_bound hbound, if_pos (by simpa [hbody] using hform)]

end

/-! ### All stages -/

/-- The stages of compilation, without their reports. -/
theorem result_compile (d : Declaration) (settings : Settings) (r : NameResolver) :
    (d.compile settings r).result = (do
      let draft ← d.draft settings.bodyCharset
      let b ← d.parameters.foldlM (fun b p => (bindParameter (d.context r draft) b p).result) {}
      d.checkBindings draft.template b
      pure (d.assemble draft.template b)) := by
  simp only [compile, Journaled.result_bind, Journaled.result_ofExcept, Journaled.result_foldlM]
  rfl

/-- A declaration is compiled to its method if its draft is made, no use repeats and the
uses pass the check. -/
theorem compile_eq_ok {d : Declaration} {settings : Settings} {r : NameResolver}
    {m : CompiledMethod} :
    (d.compile settings r).result = .ok m ↔
      ∃ draft, d.draft settings.bodyCharset = .ok draft ∧ UsesOnce r d.parameters ∧
        d.checkBindings draft.template (d.uses r draft) = .ok () ∧ m = d.method r draft := by
  simp only [result_compile, bind_eq_ok]
  constructor
  · rintro ⟨draft, hdraft, b, hb, ⟨⟩, hcheck, hm⟩
    obtain ⟨honce, rfl⟩ := (foldlM_bindParameter _ _ b).1 hb
    exact ⟨draft, hdraft, honce, hcheck, (Except.ok.inj hm).symm⟩
  · rintro ⟨draft, hdraft, honce, hcheck, rfl⟩
    exact ⟨draft, hdraft, _, (foldlM_bindParameter _ _ _).2 ⟨honce, rfl⟩, (), hcheck, rfl⟩

/-- A declaration is not compiled if its draft is not made, else if some use repeats,
else if the uses do not pass the check. -/
theorem compile_eq_error {d : Declaration} {settings : Settings} {r : NameResolver}
    {e : CompileError} :
    (d.compile settings r).result = .error e ↔
      d.draft settings.bodyCharset = .error e ∨
        ∃ draft, d.draft settings.bodyCharset = .ok draft ∧
          ((∃ front p back flaw, d.parameters = front ++ p :: back ∧ UsesOnce r front ∧
              d.Repeats r front p flaw ∧ e = d.defect flaw) ∨
            (UsesOnce r d.parameters ∧
              d.checkBindings draft.template (d.uses r draft) = .error e)) := by
  simp only [result_compile, bind_eq_error, foldlM_bindParameter_eq_error, foldlM_bindParameter]
  constructor
  · rintro (h | ⟨draft, hdraft, h | ⟨b, ⟨honce, rfl⟩, h | ⟨_, _, h⟩⟩⟩)
    · exact Or.inl h
    · exact Or.inr ⟨draft, hdraft, Or.inl h⟩
    · exact Or.inr ⟨draft, hdraft, Or.inr ⟨honce, h⟩⟩
    · exact nomatch h
  · rintro (h | ⟨draft, hdraft, h | ⟨honce, h⟩⟩)
    · exact Or.inl h
    · exact Or.inr ⟨draft, hdraft, Or.inl h⟩
    · exact Or.inr ⟨draft, hdraft, Or.inr ⟨_, ⟨honce, rfl⟩, Or.inl h⟩⟩

/-- A declaration with a parameter of every kind. The names stand in the url, the query
and the body, and the body takes the place of a header with a name of its own. -/
def sample : Declaration where
  declaringType := "Shop"
  methodName := "order"
  requestLine := some "POST /shops/{shop}/orders?tag={tag} HTTP/1.1"
  methodHeaders := ["Content-Length: {size}", "X-Trace: {tag}"]
  body := some "item={item}"
  parameters :=
    [{ index := 0, name := "shop", primaryName := some "shop" },
     { index := 1, name := "tag", primaryName := some "tag" },
     { index := 2, name := "item", primaryName := some "item" },
     { index := 3, name := "base", isUrl := true },
     { index := 4, name := "rest" }]

/-- The method that it is compiled to. The parameter without a name is left out. -/
def sampleMethod : CompiledMethod where
  configKey := sample.configKey
  template :=
    { method := "POST"
      url := "/shops/{shop}/orders"
      queries := ⟨[("tag", [some "{tag}"])], by decide⟩
      headers := ⟨[("X-Trace", ["{tag}"])], by decide⟩
      bodyTemplate := some "item={item}" }
  formParams := ["item"]
  indexToName := ⟨[(0, ["shop"]), (1, ["tag"]), (2, ["item"])], by decide⟩
  urlIndex := some 3

theorem compile_sample : (sample.compile {} (.standard true)).result = .ok sampleMethod := by
  rfl

end HttpInterface.Declaration
