import HttpInterface.Proofs.Compile.Method
import HttpInterface.Proofs.List

/-!
# `HttpInterface.Proofs.Compile.Warnings`: what compiling warns of

The name that decides and the candidates are found by two searches over the same strategies. One
stops at the first name, the other lists every name once. `NameResolver.Agrees` says that the first
candidate is the name that decides, and where the candidates come from. It holds of every parameter,
whatever the strategies are (`agrees`).

Compiling asks for both: it binds the name that decides and warns of the other candidates.
`warningsOn` tells the warnings about one parameter from its candidates alone.

* `reports_bindParameter` is the step: a parameter that is given a use is reported by its
  `warningsOn`, whatever uses the parameters before it have.
* `reports_compile` is the run: the journal of a declaration that is compiled holds the
  warnings about its parameters in order, and then that it was compiled.

`warnings_of_compile` puts both together: only what the candidates leave out is warned of.
-/

set_option autoImplicit false

namespace HttpInterface

/-! ### Journals -/

namespace Journaled

variable {ε α β : Type}

/-- After a success the reports of what follows are put behind. -/
theorem reports_bind {x : Journaled ε α} {a : α} (h : x.result = .ok a) (f : α → Journaled ε β) :
    (x >>= f).reports = x.reports ++ (f a).reports := by
  show (x.andThen f).reports = _
  rw [andThen, h]

/-- A row of steps that succeeds has the reports of its steps, if these do not depend on how far the
row has come. -/
theorem reports_foldlM {f : β → α → Journaled ε β} {told : α → List Report}
    (hstep : ∀ a b b', (f b a).result = .ok b' → (f b a).reports = told a) {l : List α} {b b' : β}
    (h : l.foldlM (fun b a => (f b a).result) b = .ok b') :
    (l.foldlM f b).reports = l.flatMap told := by
  induction l generalizing b with
  | nil => rfl
  | cons a l ih =>
    rw [List.foldlM_cons] at h
    obtain ⟨b₁, hfirst, hrest⟩ := bind_eq_ok.1 h
    rw [List.foldlM_cons, reports_bind hfirst, hstep a b b₁ hfirst, ih hrest, List.flatMap_cons]

end Journaled

/-! ### Candidates -/

namespace NameResolver

/-- The candidates of a parameter are the names that the strategies find, and the name that decides
is the first of them. -/
structure Agrees (r : NameResolver) (p : Parameter) : Prop where
  /-- No candidate is listed twice. -/
  nodup : (r.candidates p).Nodup
  /-- The candidates are the names that some strategy finds, but for the empty name. -/
  mem_iff : ∀ name, name ∈ r.candidates p ↔
    name ≠ "" ∧ ∃ strategy ∈ r.strategies, strategy p = some name
  /-- A candidate is found by some strategy before any strategy finds a later candidate. -/
  in_order : (r.candidates p).Pairwise fun a b => ∃ front strategy back,
    r.strategies = front ++ strategy :: back ∧ strategy p = some a ∧
      ∀ earlier ∈ front, earlier p ≠ some b
  /-- The first candidate decides. -/
  head : r.resolve p = (r.candidates p).head?
  /-- No name decides exactly if there is no candidate. -/
  none_iff : r.resolve p = none ↔ r.candidates p = []

open NameStrategy (nonempty)

theorem nonempty_eq_some_iff {found : Option String} {name : String} :
    nonempty found = some name ↔ found = some name ∧ name ≠ "" := by
  simp [nonempty, Option.filter_eq_some_iff]

theorem head?_candidates (r : NameResolver) (p : Parameter) :
    (r.candidates p).head? = r.resolve p := by
  rw [candidates, resolve, ← List.head?_filterMap]
  cases r.strategies.filterMap fun strategy => nonempty (strategy p) with
  | nil => rfl
  | cons name names => rw [List.eraseDups_cons, List.head?_cons, List.head?_cons]

/-- Both searches agree, whatever the strategies are. -/
theorem agrees (r : NameResolver) (p : Parameter) : r.Agrees p where
  nodup := nodup_eraseDups _
  mem_iff name := by
    rw [candidates, List.mem_eraseDups, List.mem_filterMap]
    simp only [nonempty_eq_some_iff]
    constructor
    · rintro ⟨strategy, hmem, hfound, hname⟩
      exact ⟨hname, strategy, hmem, hfound⟩
    · rintro ⟨hname, strategy, hmem, hfound⟩
      exact ⟨strategy, hmem, hfound, hname⟩
  in_order := by
    refine (pairwise_eraseDups _).imp_of_mem fun {a b} _ hb hfirst => ?_
    have hname : b ≠ "" := by
      obtain ⟨strategy, -, hfound⟩ := List.mem_filterMap.1 (List.mem_eraseDups.1 hb)
      exact (nonempty_eq_some_iff.1 hfound).2
    -- The place where the name is first found is the place of a strategy.
    obtain ⟨front, back, hsplit, hno⟩ := hfirst
    obtain ⟨before, rest, hstrategies, hfront, hrest⟩ := List.filterMap_eq_append_iff.1 hsplit
    obtain ⟨skipped, strategy, behind, rfl, hskipped, hfound, -⟩ :=
      List.filterMap_eq_cons_iff.1 hrest
    refine ⟨before ++ skipped, strategy, behind, ?_, (nonempty_eq_some_iff.1 hfound).1, ?_⟩
    · rw [hstrategies, List.append_assoc]
    · intro earlier hmem hearlier
      have hearlier : nonempty (earlier p) = some b := nonempty_eq_some_iff.2 ⟨hearlier, hname⟩
      rcases List.mem_append.1 hmem with hmem | hmem
      · exact hno (hfront ▸ List.mem_filterMap.2 ⟨earlier, hmem, hearlier⟩)
      · exact nomatch (hskipped earlier hmem).symm.trans hearlier
  head := (r.head?_candidates p).symm
  none_iff := by rw [← head?_candidates, List.head?_eq_none_iff]

end NameResolver

/-! ### Warnings -/

namespace Declaration

/-- The warnings about a parameter: its candidates but the first, or that it has no use. -/
def warningsOn (d : Declaration) (r : NameResolver) (p : Parameter) : List Report :=
  if p.isUrl then []
  else
    match r.candidates p with
    | [] => if d.body.isSome then [.parameterIgnored d.configKey p.name] else []
    | [_] => []
    | name :: others => [.namesIgnored d.configKey p.name name others]

section

variable {d : Declaration} {r : NameResolver} {p : Parameter}

theorem warningsOn_of_isUrl (h : p.isUrl = true) : d.warningsOn r p = [] := by
  rw [warningsOn, if_pos h]

/-- A parameter with a name is warned of if it has other candidates. -/
theorem warningsOn_of_resolve {name : String} (hurl : p.isUrl = false)
    (hname : r.resolve p = some name) :
    d.warningsOn r p =
      if ((r.candidates p).filter (· ≠ name)).isEmpty then []
      else [.namesIgnored d.configKey p.name name ((r.candidates p).filter (· ≠ name))] := by
  obtain ⟨others, hcandidates⟩ : ∃ others, r.candidates p = name :: others :=
    List.head?_eq_some_iff.1 ((r.head?_candidates p).trans hname)
  -- No candidate is listed twice, so only the first one is filtered out.
  have hnodup := (r.agrees p).nodup
  rw [hcandidates, List.nodup_cons] at hnodup
  have hfilter : (name :: others).filter (· ≠ name) = others := by
    rw [List.filter_cons_of_neg (by simp), List.filter_eq_self]
    intro other hother
    simpa using fun heq : other = name => hnodup.1 (heq ▸ hother)
  rw [warningsOn, hurl, hcandidates, hfilter]
  cases others with
  | nil => rfl
  | cons other others => rfl

/-- A parameter without a name is warned of if a body is declared. -/
theorem warningsOn_of_isUnnamed (h : r.isUnnamed p = true) :
    d.warningsOn r p =
      if d.body.isSome then [.parameterIgnored d.configKey p.name] else [] := by
  obtain ⟨hurl, hname⟩ := NameResolver.isUnnamed_iff.1 h
  rw [warningsOn, hurl, (r.agrees p).none_iff.1 hname]
  rfl

theorem level_of_mem_warningsOn {report : Report} (h : report ∈ d.warningsOn r p) :
    report.level = .warning := by
  rw [warningsOn] at h
  split at h
  · exact absurd h List.not_mem_nil
  · split at h
    · split at h
      · rw [List.mem_singleton.1 h]
        rfl
      · exact absurd h List.not_mem_nil
    · exact absurd h List.not_mem_nil
    · rw [List.mem_singleton.1 h]
      rfl

end

/-- A parameter that is given its use is reported by its warnings. -/
theorem reports_bindParameter {ctx : BindingContext}
    (hbody : ctx.hasBody = ctx.declaration.body.isSome) (p : Parameter) (b b' : Bindings)
    (h : (bindParameter ctx b p).result = .ok b') :
    (bindParameter ctx b p).reports = ctx.declaration.warningsOn ctx.resolver p := by
  rcases ctx.resolver.use_cases p with
    ⟨hurl, -, -⟩ | ⟨name, hurl, hname, -, -⟩ | ⟨hurl, hname, -, hunnamed⟩
  · rw [warningsOn_of_isUrl hurl, bindParameter, if_pos hurl]
    split
    · rfl
    · rfl
  · rw [warningsOn_of_resolve hurl hname, bindParameter, if_neg (by simp [hurl]), hname]
    show (bindNamed ctx b p name).reports = _
    rw [bindNamed]
    cases ((ctx.resolver.candidates p).filter (· ≠ name)).isEmpty with
    | true => rfl
    | false => rfl
  · rw [warningsOn_of_isUnnamed hunnamed, ← hbody]
    rw [bindParameter, if_neg (by simp [hurl]), hname] at h ⊢
    replace h : (bindUnnamed ctx b p).result = .ok b' := h
    show (bindUnnamed ctx b p).reports = _
    rw [bindUnnamed] at h ⊢
    split at h
    · cases h
    · next hseen =>
      rw [if_neg hseen]
      cases ctx.hasBody with
      | true => rfl
      | false => rfl

/-- The journal of a declaration that is compiled. -/
theorem reports_compile {d : Declaration} {settings : Settings} {r : NameResolver}
    {m : CompiledMethod} (hm : (d.compile settings r).result = .ok m) :
    (d.compile settings r).reports =
      d.parameters.flatMap (d.warningsOn r) ++
        [.methodCompiled d.configKey m.template.method m.template.url] := by
  obtain ⟨draft, hdraft, honce, hcheck, rfl⟩ := compile_eq_ok.1 hm
  have hbindings : d.parameters.foldlM
      (fun b p => (bindParameter (d.context r draft) b p).result) {} = .ok (d.uses r draft) :=
    (foldlM_bindParameter _ _ _).2 ⟨honce, rfl⟩
  have hfold : (d.parameters.foldlM (bindParameter (d.context r draft)) {}).reports =
      d.parameters.flatMap (d.warningsOn r) :=
    Journaled.reports_foldlM (reports_bindParameter (hasBody_draft hdraft)) hbindings
  rw [← Journaled.result_foldlM] at hbindings
  rw [compile, Journaled.reports_bind hdraft]
  show [] ++ ((d.parameters.foldlM (bindParameter (d.context r draft)) {}) >>= _).reports = _
  rw [List.nil_append, Journaled.reports_bind hbindings, hfold]
  refine congrArg (_ ++ ·) ?_
  rw [Journaled.reports_bind hcheck]
  rfl

/-- The name that decides is the first candidate, and a declaration that is compiled is warned of
just where that leaves something out: candidates behind the first, or a parameter without any
beside a declared body. -/
theorem warnings_of_compile (r : NameResolver) :
    (∀ p, r.Agrees p) ∧
      ∀ (d : Declaration) (settings : Settings) (m : CompiledMethod),
        (d.compile settings r).result = .ok m →
        (d.compile settings r).reports.filter (·.level = .warning) =
          d.parameters.flatMap (d.warningsOn r) := by
  refine ⟨r.agrees, fun d settings m hm => ?_⟩
  have hwarnings : (d.parameters.flatMap (d.warningsOn r)).filter (·.level = .warning) =
      d.parameters.flatMap (d.warningsOn r) := by
    refine List.filter_eq_self.2 fun report hmem => decide_eq_true ?_
    obtain ⟨p, -, hreport⟩ := List.mem_flatMap.1 hmem
    exact level_of_mem_warningsOn hreport
  rw [reports_compile hm, List.filter_append, hwarnings]
  exact List.append_nil _

/-- The sample with its parameters marked twice: by different names, by one name, and by an empty
name beside another one. -/
def doublyMarkedSample : Declaration :=
  { sample with
    parameters :=
      [{ index := 0, name := "shop", primaryName := some "shop", legacyName := some "store" },
       { index := 1, name := "tag", primaryName := some "tag", legacyName := some "tag" },
       { index := 2, name := "item", primaryName := some "", legacyName := some "item" },
       { index := 3, name := "base", primaryName := some "base", legacyName := some "origin",
         isUrl := true },
       { index := 4, name := "rest" }] }

theorem warnings_of_sample :
    (doublyMarkedSample.compile {} (.standard true)).result = .ok sampleMethod ∧
      (doublyMarkedSample.compile {} (.standard true)).reports.filter (·.level = .warning) =
        [.namesIgnored doublyMarkedSample.configKey "shop" "shop" ["store"],
         .parameterIgnored doublyMarkedSample.configKey "rest"] := by
  have hcompile : (doublyMarkedSample.compile {} (.standard true)).result = .ok sampleMethod := rfl
  have hwarnings := (warnings_of_compile (.standard true)).2 doublyMarkedSample {} _ hcompile
  refine ⟨hcompile, hwarnings.trans ?_⟩
  rfl

end Declaration

end HttpInterface
