import HttpInterface.Compile
import HttpInterface.Journal
import HttpInterface.Proofs.List
import HttpInterface.Proofs.OrderedMap

/-!
# `HttpInterface.Proofs.Compile.Bindings`: the uses that parameters are given

The loop over the parameters keeps five pieces of state. `usesOf` says what they are
after some parameters without running the loop: which names are bound and which of
them are form parameters, and which parameter is the body or replaces the base URL.

* `result_bindParameter` is the step: one more parameter, unless it is the second that
  replaces the base URL or the second without a name.
* `foldlM_bindParameter` is the run: it succeeds if no parameter repeats such a use
  (`UsesOnce`), and then leaves `usesOf`.
* `foldlM_bindParameter_eq_error` finds the parameter where a run fails.

Reports never decide how the loop goes on. So the result of a journaled computation is the
computation on the results: `result_bind` and `result_foldlM` take the reports away.
-/

set_option autoImplicit false

namespace HttpInterface.Journaled

variable {ε α β : Type}

theorem result_ofExcept (x : Except ε α) : (ofExcept x).result = x := rfl

theorem result_bind (x : Journaled ε α) (f : α → Journaled ε β) :
    (x >>= f).result = x.result >>= fun a => (f a).result := by
  show (x.andThen f).result = _
  rw [andThen]
  cases x.result with
  | error e => rfl
  | ok a => rfl

theorem result_foldlM (f : β → α → Journaled ε β) (l : List α) (b : β) :
    (l.foldlM f b).result = l.foldlM (fun b a => (f b a).result) b := by
  induction l generalizing b with
  | nil => rfl
  | cons a l ih =>
    rw [List.foldlM_cons, List.foldlM_cons, result_bind]
    exact congrArg _ (funext fun b' => ih b')

end HttpInterface.Journaled

namespace HttpInterface

namespace NameResolver

/-- The name that a parameter is bound to. A parameter that replaces the base URL is
bound to none. -/
def nameOf? (r : NameResolver) (p : Parameter) : Option String :=
  if p.isUrl then none else r.resolve p

/-- The parameter has no name and does not replace the base URL. -/
def isUnnamed (r : NameResolver) (p : Parameter) : Bool :=
  !p.isUrl && (r.resolve p).isNone

/-- The names that parameters are bound to, in order. -/
def names (r : NameResolver) (ps : List Parameter) : List String :=
  ps.filterMap r.nameOf?

/-- The positions of the parameters with a name, each with its name. -/
def positions (r : NameResolver) (ps : List Parameter) : List (Int × List String) :=
  ps.filterMap fun p => (r.nameOf? p).map fun name => (p.index, [name])

/-- A parameter replaces the base URL, has a name or has none. -/
theorem use_cases (r : NameResolver) (p : Parameter) :
    (p.isUrl = true ∧ r.nameOf? p = none ∧ r.isUnnamed p = false) ∨
      (∃ name, p.isUrl = false ∧ r.resolve p = some name ∧ r.nameOf? p = some name ∧
        r.isUnnamed p = false) ∨
      (p.isUrl = false ∧ r.resolve p = none ∧ r.nameOf? p = none ∧ r.isUnnamed p = true) := by
  cases hurl : p.isUrl with
  | true => simp [nameOf?, isUnnamed, hurl]
  | false =>
    cases hname : r.resolve p with
    | none => simp [nameOf?, isUnnamed, hurl, hname]
    | some name => simp [nameOf?, isUnnamed, hurl, hname]

theorem nameOf?_eq_some_iff {r : NameResolver} {p : Parameter} {name : String} :
    r.nameOf? p = some name ↔ p.isUrl = false ∧ r.resolve p = some name := by
  cases hurl : p.isUrl <;> simp [nameOf?, hurl]

theorem isUnnamed_iff {r : NameResolver} {p : Parameter} :
    r.isUnnamed p = true ↔ p.isUrl = false ∧ r.resolve p = none := by
  simp [isUnnamed]

theorem mem_names {r : NameResolver} {ps : List Parameter} {name : String} :
    name ∈ r.names ps ↔ ∃ p ∈ ps, p.isUrl = false ∧ r.resolve p = some name := by
  simp only [names, List.mem_filterMap, nameOf?_eq_some_iff]

theorem map_fst_positions (r : NameResolver) (ps : List Parameter) :
    (r.positions ps).map Prod.fst = (ps.filter fun p => (r.nameOf? p).isSome).map (·.index) := by
  induction ps with
  | nil => rfl
  | cons p ps ih =>
    rw [positions, List.filterMap_cons, List.filter_cons]
    cases r.nameOf? p with
    | none => exact ih
    | some name => exact congrArg (p.index :: ·) ih

theorem flatten_snd_positions (r : NameResolver) (ps : List Parameter) :
    ((r.positions ps).map Prod.snd).flatten = r.names ps := by
  induction ps with
  | nil => rfl
  | cons p ps ih =>
    rw [positions, names, List.filterMap_cons, List.filterMap_cons]
    cases r.nameOf? p with
    | none => exact ih
    | some name => exact congrArg (name :: ·) ih

end NameResolver

namespace Declaration

/-- The uses of some parameters. -/
def usesOf (ctx : BindingContext) (ps : List Parameter) : Bindings where
  indexToName := OrderedMap.ofList (ctx.resolver.positions ps)
  formParams := ((ctx.resolver.names ps).filter fun name => !ctx.httpNames.contains name).eraseDups
  body :=
    if ctx.hasBody then none
    else (ps.find? ctx.resolver.isUnnamed).map fun p => (p.index, p.type)
  urlIndex := (ps.find? (·.isUrl)).map (·.index)
  unnamedSeen := ps.any ctx.resolver.isUnnamed

/-- At most one parameter replaces the base URL, and at most one has no name. -/
structure UsesOnce (r : NameResolver) (ps : List Parameter) : Prop where
  url : ps.countP (·.isUrl) ≤ 1
  unnamed : ps.countP r.isUnnamed ≤ 1

theorem UsesOnce.of_append {r : NameResolver} {front ps : List Parameter} (h : UsesOnce r ps)
    (back : List Parameter) (hps : ps = front ++ back) : UsesOnce r front where
  url := by
    have := h.url
    rw [hps, List.countP_append] at this
    omega
  unnamed := by
    have := h.unnamed
    rw [hps, List.countP_append] at this
    omega

/-- The parameter repeats a use that some parameters before it have. -/
def Repeats (d : Declaration) (r : NameResolver) (front : List Parameter) (p : Parameter)
    (flaw : Flaw) : Prop :=
  (p.isUrl = true ∧ front.any (·.isUrl) = true ∧ flaw = .severalUrlParameters) ∨
    (r.isUnnamed p = true ∧ front.any r.isUnnamed = true ∧
      flaw = .tooManyBodyParameters d.methodName d.parameters.length)

/-- A parameter repeats only one use. -/
theorem Repeats.flaw_unique {d : Declaration} {r : NameResolver} {front : List Parameter}
    {p : Parameter} {flaw flaw' : Flaw} (h : d.Repeats r front p flaw)
    (h' : d.Repeats r front p flaw') : flaw = flaw' := by
  have hexclusive : ¬(p.isUrl = true ∧ r.isUnnamed p = true) := by
    simp +contextual [NameResolver.isUnnamed]
  rcases h with ⟨hurl, -, rfl⟩ | ⟨hunnamed, -, rfl⟩
  · rcases h' with ⟨-, -, rfl⟩ | ⟨hunnamed, -, -⟩
    · rfl
    · exact absurd ⟨hurl, hunnamed⟩ hexclusive
  · rcases h' with ⟨hurl, -, -⟩ | ⟨-, -, rfl⟩
    · exact absurd ⟨hurl, hunnamed⟩ hexclusive
    · rfl

/-! ### One parameter -/

/-- The bindings after a parameter with a name. -/
theorem result_bindNamed (ctx : BindingContext) (b : Bindings) (p : Parameter) (name : String) :
    (bindNamed ctx b p name).result = .ok
      { b with
        indexToName := b.indexToName.insert p.index [name]
        formParams :=
          if !ctx.httpNames.contains name && !b.formParams.contains name then
            b.formParams ++ [name]
          else b.formParams } := by
  rw [bindNamed]
  split
  · rfl
  · rfl

/-- The bindings after a parameter without a name. -/
theorem result_bindUnnamed (ctx : BindingContext) (b : Bindings) (p : Parameter) :
    (bindUnnamed ctx b p).result =
      if b.unnamedSeen then
        .error (ctx.declaration.defect (.tooManyBodyParameters ctx.declaration.methodName
          ctx.declaration.parameters.length))
      else
        .ok { b with
          unnamedSeen := true
          body := if ctx.hasBody then b.body else some (p.index, p.type) } := by
  rw [bindUnnamed]
  split
  · rfl
  · split
    · rfl
    · rfl

theorem usesOf_concat_url (ctx : BindingContext) {ps : List Parameter} {p : Parameter}
    (hurl : p.isUrl = true) (hps : ps.any (·.isUrl) = false) :
    usesOf ctx (ps ++ [p]) = { usesOf ctx ps with urlIndex := some p.index } := by
  have hname : ctx.resolver.nameOf? p = none := by simp [NameResolver.nameOf?, hurl]
  have hunnamed : ctx.resolver.isUnnamed p = false := by simp [NameResolver.isUnnamed, hurl]
  simp [usesOf, NameResolver.positions, NameResolver.names, hname, hunnamed, hurl,
    find?_eq_none_of_any hps]

theorem usesOf_concat_named (ctx : BindingContext) (ps : List Parameter) {p : Parameter}
    {name : String} (hurl : p.isUrl = false) (hresolve : ctx.resolver.resolve p = some name) :
    usesOf ctx (ps ++ [p]) =
      { usesOf ctx ps with
        indexToName := (usesOf ctx ps).indexToName.insert p.index [name]
        formParams :=
          if !ctx.httpNames.contains name && !(usesOf ctx ps).formParams.contains name then
            (usesOf ctx ps).formParams ++ [name]
          else (usesOf ctx ps).formParams } := by
  have hname : ctx.resolver.nameOf? p = some name := by simp [NameResolver.nameOf?, hurl, hresolve]
  have hunnamed : ctx.resolver.isUnnamed p = false := by
    simp [NameResolver.isUnnamed, hurl, hresolve]
  have hpositions : ctx.resolver.positions (ps ++ [p]) =
      ctx.resolver.positions ps ++ [(p.index, [name])] := by
    simp [NameResolver.positions, hname]
  have hnames : ctx.resolver.names (ps ++ [p]) = ctx.resolver.names ps ++ [name] := by
    simp [NameResolver.names, hname]
  -- Keeping a name out that is there already is the same as counting each name once.
  have hform : (((ctx.resolver.names ps ++ [name]).filter
        fun name => !ctx.httpNames.contains name).eraseDups) =
      if !ctx.httpNames.contains name && !(usesOf ctx ps).formParams.contains name then
        (usesOf ctx ps).formParams ++ [name]
      else (usesOf ctx ps).formParams := by
    rw [List.filter_append]
    by_cases hhttp : name ∈ ctx.httpNames
    · simp [hhttp, usesOf]
    · have hsingle : [name].filter (fun name => !ctx.httpNames.contains name) = [name] := by
        simp [hhttp]
      rw [hsingle, eraseDups_concat]
      by_cases hold : name ∈ ctx.resolver.names ps
      · simp [usesOf, hhttp, hold, List.mem_eraseDups]
      · simp [usesOf, hhttp, hold, List.mem_eraseDups]
  rw [usesOf, hpositions, hnames, hform, OrderedMap.ofList_concat]
  simp [usesOf, hunnamed, hurl]

theorem usesOf_concat_unnamed (ctx : BindingContext) {ps : List Parameter} {p : Parameter}
    (hp : ctx.resolver.isUnnamed p = true) (hps : ps.any ctx.resolver.isUnnamed = false) :
    usesOf ctx (ps ++ [p]) =
      { usesOf ctx ps with
        unnamedSeen := true
        body := if ctx.hasBody then none else some (p.index, p.type) } := by
  obtain ⟨hurl, hresolve⟩ := NameResolver.isUnnamed_iff.1 hp
  have hname : ctx.resolver.nameOf? p = none := by simp [NameResolver.nameOf?, hurl, hresolve]
  simp [usesOf, NameResolver.positions, NameResolver.names, hname, hp, hurl,
    find?_eq_none_of_any hps]

/-- A parameter is given its use unless it repeats one. -/
theorem result_bindParameter (ctx : BindingContext) (ps : List Parameter) (p : Parameter) :
    ((∀ flaw, ¬ctx.declaration.Repeats ctx.resolver ps p flaw) ∧
        (bindParameter ctx (usesOf ctx ps) p).result = .ok (usesOf ctx (ps ++ [p]))) ∨
      ∃ flaw, ctx.declaration.Repeats ctx.resolver ps p flaw ∧
        (bindParameter ctx (usesOf ctx ps) p).result = .error (ctx.declaration.defect flaw) := by
  rcases ctx.resolver.use_cases p with
    ⟨hurl, -, hunnamed⟩ | ⟨name, hurl, hresolve, -, hunnamed⟩ | ⟨hurl, hresolve, -, hunnamed⟩
  · -- The parameter replaces the base URL.
    rw [bindParameter, if_pos hurl]
    cases hps : ps.any (·.isUrl) with
    | false =>
      left
      have hfind : (usesOf ctx ps).urlIndex = none := by
        rw [usesOf, find?_eq_none_of_any hps, Option.map_none]
      rw [hfind, usesOf_concat_url ctx hurl hps]
      exact ⟨fun flaw => by simp [Repeats, hunnamed, hps], rfl⟩
    | true =>
      right
      obtain ⟨first, hfirst⟩ : ∃ first, ps.find? (·.isUrl) = some first := by
        rw [← Option.isSome_iff_exists, List.find?_isSome]
        simpa using hps
      have hfind : (usesOf ctx ps).urlIndex = some first.index := by
        rw [usesOf, hfirst, Option.map_some]
      rw [hfind]
      exact ⟨_, Or.inl ⟨hurl, hps, rfl⟩, rfl⟩
  · -- The parameter has a name, and a name may be bound as often as it comes.
    left
    rw [bindParameter, if_neg (by simp [hurl]), hresolve, usesOf_concat_named ctx ps hurl hresolve]
    exact ⟨fun flaw => by simp [Repeats, hurl, hunnamed], result_bindNamed ctx _ p name⟩
  · -- The parameter has no name.
    rw [bindParameter, if_neg (by simp [hurl]), hresolve]
    cases hps : ps.any ctx.resolver.isUnnamed with
    | false =>
      left
      refine ⟨fun flaw => by simp [Repeats, hurl, hps], ?_⟩
      show (bindUnnamed ctx (usesOf ctx ps) p).result = _
      rw [result_bindUnnamed, usesOf_concat_unnamed ctx hunnamed hps,
        if_neg (by simp [usesOf, hps])]
      -- Where a body is declared there is no body parameter before this one either.
      cases hbody : ctx.hasBody with
      | false => rfl
      | true => simp [usesOf, hbody]
    | true =>
      right
      refine ⟨_, Or.inr ⟨hunnamed, hps, rfl⟩, ?_⟩
      show (bindUnnamed ctx (usesOf ctx ps) p).result = _
      rw [result_bindUnnamed, if_pos (by simp [usesOf, hps])]

/-! ### All parameters -/

/-- One more parameter that repeats no use. -/
theorem usesOnce_concat (d : Declaration) {r : NameResolver} {ps : List Parameter} {p : Parameter} :
    UsesOnce r (ps ++ [p]) ↔ UsesOnce r ps ∧ ∀ flaw, ¬d.Repeats r ps p flaw := by
  -- Both uses are counted in the same way.
  have key : ∀ q : Parameter → Bool, (ps ++ [p]).countP q ≤ 1 ↔
      ps.countP q ≤ 1 ∧ ¬(q p = true ∧ ps.any q = true) := by
    intro q
    have hany : ps.any q = true ↔ 0 < ps.countP q := by
      rw [List.countP_pos_iff, List.any_eq_true]
    rw [List.countP_append, List.countP_singleton, hany]
    split
    · next hp => simp only [hp, true_and]; omega
    · next hp => simp [hp]
  have hrepeats : (∀ flaw, ¬d.Repeats r ps p flaw) ↔
      ¬(p.isUrl = true ∧ ps.any (·.isUrl) = true) ∧
        ¬(r.isUnnamed p = true ∧ ps.any r.isUnnamed = true) := by
    constructor
    · exact fun h => ⟨fun hurl => h _ (Or.inl ⟨hurl.1, hurl.2, rfl⟩),
        fun hunnamed => h _ (Or.inr ⟨hunnamed.1, hunnamed.2, rfl⟩)⟩
    · rintro ⟨hurl, hunnamed⟩ flaw (h | h)
      · exact hurl ⟨h.1, h.2.1⟩
      · exact hunnamed ⟨h.1, h.2.1⟩
  rw [hrepeats]
  constructor
  · rintro ⟨hurl, hunnamed⟩
    exact ⟨⟨((key _).1 hurl).1, ((key _).1 hunnamed).1⟩, ((key _).1 hurl).2, ((key _).1 hunnamed).2⟩
  · rintro ⟨⟨hurl, hunnamed⟩, hurl', hunnamed'⟩
    exact ⟨(key _).2 ⟨hurl, hurl'⟩, (key _).2 ⟨hunnamed, hunnamed'⟩⟩

theorem usesOf_nil (ctx : BindingContext) : usesOf ctx [] = {} := by
  simp [usesOf, NameResolver.positions, NameResolver.names, OrderedMap.ofList]

theorem usesOnce_nil (r : NameResolver) : UsesOnce r [] := ⟨Nat.zero_le 1, Nat.zero_le 1⟩

/-- A run that goes on behind some parameters gives all parameters their uses. -/
theorem foldlM_bindParameter_append (ctx : BindingContext) (front ps : List Parameter)
    (hfront : UsesOnce ctx.resolver front) (b : Bindings) :
    ps.foldlM (fun b p => (bindParameter ctx b p).result) (usesOf ctx front) = .ok b ↔
      UsesOnce ctx.resolver (front ++ ps) ∧ b = usesOf ctx (front ++ ps) := by
  -- Each step moves a parameter from the rest to those that have their uses.
  induction ps generalizing front with
  | nil =>
    rw [List.append_nil]
    exact ⟨fun h => ⟨hfront, (Except.ok.inj h).symm⟩, fun h => congrArg Except.ok h.2.symm⟩
  | cons p ps ih =>
    rw [List.foldlM_cons]
    rcases result_bindParameter ctx front p with ⟨hnew, hstep⟩ | ⟨flaw, hrepeats, hstep⟩
    · rw [hstep]
      show List.foldlM _ (usesOf ctx (front ++ [p])) ps = Except.ok b ↔ _
      rw [ih (front ++ [p]) ((usesOnce_concat ctx.declaration).2 ⟨hfront, hnew⟩),
        List.append_assoc, List.singleton_append]
    · rw [hstep]
      refine ⟨fun h => (nomatch h), fun h => ?_⟩
      have hprefix : UsesOnce ctx.resolver (front ++ [p]) := h.1.of_append ps (by simp)
      exact absurd hrepeats (((usesOnce_concat ctx.declaration).1 hprefix).2 flaw)

/-- The loop over the parameters succeeds exactly if no use repeats. -/
theorem foldlM_bindParameter (ctx : BindingContext) (ps : List Parameter) (b : Bindings) :
    ps.foldlM (fun b p => (bindParameter ctx b p).result) {} = .ok b ↔
      UsesOnce ctx.resolver ps ∧ b = usesOf ctx ps := by
  have h := foldlM_bindParameter_append ctx [] ps (usesOnce_nil _) b
  rwa [usesOf_nil] at h

/-- The loop fails at the first parameter that repeats a use. -/
theorem foldlM_bindParameter_eq_error (ctx : BindingContext) (ps : List Parameter)
    (e : CompileError) :
    ps.foldlM (fun b p => (bindParameter ctx b p).result) {} = .error e ↔
      ∃ front p back flaw, ps = front ++ p :: back ∧ UsesOnce ctx.resolver front ∧
        ctx.declaration.Repeats ctx.resolver front p flaw ∧ e = ctx.declaration.defect flaw := by
  rw [foldlM_eq_error]
  constructor
  · rintro ⟨front, p, back, b, rfl, hfront, hp⟩
    obtain ⟨honce, rfl⟩ := (foldlM_bindParameter ctx front b).1 hfront
    rcases result_bindParameter ctx front p with ⟨-, hstep⟩ | ⟨flaw, hrepeats, hstep⟩
    · exact nomatch hstep.symm.trans hp
    · exact ⟨front, p, back, flaw, rfl, honce, hrepeats, Except.error.inj (hp.symm.trans hstep)⟩
  · rintro ⟨front, p, back, flaw, rfl, honce, hrepeats, rfl⟩
    refine ⟨front, p, back, usesOf ctx front, rfl,
      (foldlM_bindParameter ctx front _).2 ⟨honce, rfl⟩, ?_⟩
    rcases result_bindParameter ctx front p with ⟨hnew, -⟩ | ⟨flaw', hrepeats', hstep⟩
    · exact absurd hrepeats (hnew flaw)
    · rw [hstep, hrepeats.flaw_unique hrepeats']

end Declaration

end HttpInterface
