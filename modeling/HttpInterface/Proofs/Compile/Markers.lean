import HttpInterface.Call
import HttpInterface.Proofs.Compile.Method

/-!
# `HttpInterface.Proofs.Compile.Markers`: how a parameter is marked does not matter

A parameter may be marked with a name in two ways, and a resolver may know others. Compiling asks
the resolver alone. So a declaration may be settled first: each parameter keeps the name that the
resolver finds, as its one marker. `result_compile_settled` shows that this changes no result, the
positions, the form parameters and the errors included. Only a report of names that were ignored
may be lost.

Declarations that settle alike are compiled alike. For the usual resolvers that means to agree on
the first name that is not empty, and `compiledAlike_of_markers` says so.
-/

set_option autoImplicit false

namespace HttpInterface

/-! ### Names -/

/-- The first of some names that is there and not empty. -/
def firstNonempty (names : List (Option String)) : Option String :=
  (names.filterMap id).find? (· ≠ "")

namespace NameStrategy

theorem nonempty_nonempty (name : Option String) : nonempty (nonempty name) = nonempty name := by
  rw [nonempty, nonempty, Option.filter_filter]
  simp only [Bool.and_self]

theorem firstNonempty_eq (names : List (Option String)) :
    firstNonempty names = names.findSome? nonempty := by
  have hfilter : (names.filterMap id).filter (· ≠ "") = names.filterMap nonempty := by
    rw [List.filter_filterMap]
    refine congrArg (List.filterMap · names) (funext fun name => ?_)
    refine congrArg (Option.filter · name) (funext fun n => ?_)
    rw [Bool.eq_iff_iff, Bool.not_eq_true', decide_eq_true_iff, ne_eq, ← String.isEmpty_iff,
      Bool.not_eq_true]
  rw [firstNonempty, ← List.head?_filter, hfilter, List.head?_filterMap]

end NameStrategy

namespace NameResolver

open NameStrategy (nonempty nonempty_nonempty firstNonempty_eq)

/-- The usual resolvers find the first name that is not empty. -/
theorem resolve_standard (legacyNames : Bool) (p : Parameter) :
    (standard legacyNames).resolve p =
      firstNonempty (if legacyNames then [p.primaryName, p.legacyName] else [p.primaryName]) := by
  rw [firstNonempty_eq]
  cases legacyNames with
  | true =>
    simp only [standard, resolve, if_true, List.findSome?_cons, NameStrategy.primary,
      NameStrategy.legacy, nonempty_nonempty, List.findSome?_nil]
  | false =>
    simp only [standard, resolve, Bool.false_eq_true, if_false, List.findSome?_cons,
      NameStrategy.primary, nonempty_nonempty, List.findSome?_nil]

/-- A name that is found is not empty. -/
theorem nonempty_resolve (r : NameResolver) (p : Parameter) :
    nonempty (r.resolve p) = r.resolve p := by
  cases hname : r.resolve p with
  | none => rfl
  | some name =>
    obtain ⟨strategy, -, hfound⟩ := List.exists_of_findSome?_eq_some hname
    rw [← hfound, nonempty_nonempty]

end NameResolver

/-! ### Settled declarations -/

namespace Parameter

/-- The parameter without its markers. -/
def unmarked (p : Parameter) : Parameter :=
  { p with primaryName := none, legacyName := none }

/-- The parameter with the name that a resolver finds as its one marker. -/
def settled (r : NameResolver) (p : Parameter) : Parameter :=
  { p with primaryName := r.resolve p, legacyName := none }

/-- The usual resolvers find the name of a settled parameter. -/
theorem resolve_settled (r : NameResolver) (legacyNames : Bool) (p : Parameter) :
    (NameResolver.standard legacyNames).resolve (p.settled r) = r.resolve p := by
  rw [NameResolver.resolve_standard, NameStrategy.firstNonempty_eq]
  have hname := r.nonempty_resolve p
  cases hfound : r.resolve p with
  | none => cases legacyNames <;> simp [settled, hfound, NameStrategy.nonempty]
  | some name =>
    rw [hfound] at hname
    cases legacyNames <;> simp [settled, hfound, hname]

end Parameter

namespace Declaration

/-- The declaration without the markers of its parameters. -/
def unmarked (d : Declaration) : Declaration :=
  { d with parameters := d.parameters.map Parameter.unmarked }

/-- The declaration with settled parameters. -/
def settled (r : NameResolver) (d : Declaration) : Declaration :=
  { d with parameters := d.parameters.map (Parameter.settled r) }

section

variable (d : Declaration) (r : NameResolver) (legacyNames : Bool)

theorem configKey_settled : (d.settled r).configKey = d.configKey := by
  simp only [configKey, settled, List.map_map]
  rfl

theorem defect_settled : (d.settled r).defect = d.defect := by
  funext flaw
  rw [defect, defect, configKey_settled]

/-- The parameters have no part in the draft but that a defect tells the key. -/
theorem draft_settled : (d.settled r).draft = d.draft := by
  have hstart : (d.settled r).requestLineDraft = d.requestLineDraft := by
    funext charset
    simp only [requestLineDraft, defect_settled]
    rfl
  have hheader : (d.settled r).addDeclaredHeader = d.addDeclaredHeader := by
    funext draft header
    simp only [addDeclaredHeader, defect_settled]
  funext charset
  rw [draft, draft, hstart, hheader]
  rfl

/-- A settled parameter is given the use that the parameter is given. -/
theorem result_bindParameter_settled (draft : Draft) (b : Bindings) (p : Parameter) :
    (bindParameter ((d.settled r).context (.standard legacyNames) draft) b (p.settled r)).result =
      (bindParameter (d.context r draft) b p).result := by
  have hcount : (d.settled r).parameters.length = d.parameters.length := List.length_map _
  rw [bindParameter, bindParameter, show (p.settled r).isUrl = p.isUrl from rfl]
  cases p.isUrl with
  | true =>
    simp only [context, defect_settled]
    cases b.urlIndex <;> rfl
  | false =>
    simp only [context, Parameter.resolve_settled]
    cases r.resolve p with
    | some name =>
      simp only [Bool.false_eq_true, if_false, result_bindNamed]
      rfl
    | none =>
      simp only [Bool.false_eq_true, if_false, result_bindUnnamed, defect_settled, hcount]
      rfl

/-- Settling a declaration does not change what it is compiled to. -/
theorem result_compile_settled (settings : Settings) :
    ((d.settled r).compile settings (.standard legacyNames)).result =
      (d.compile settings r).result := by
  have hloop : ∀ draft : Draft,
      (d.settled r).parameters.foldlM (fun b p =>
          (bindParameter ((d.settled r).context (.standard legacyNames) draft) b p).result) {} =
        d.parameters.foldlM (fun b p => (bindParameter (d.context r draft) b p).result) {} := by
    intro draft
    have hstep := fun b p => result_bindParameter_settled d r legacyNames draft b p
    rw [show (d.settled r).parameters = d.parameters.map (Parameter.settled r) from rfl,
      List.foldlM_map]
    simp only [hstep]
  have hcheck : (d.settled r).checkBindings = d.checkBindings := by
    funext template b
    simp only [checkBindings, defect_settled]
  have hassemble : (d.settled r).assemble = d.assemble := by
    funext template b
    simp only [assemble, configKey_settled]
    rfl
  rw [result_compile, result_compile, draft_settled, hcheck, hassemble]
  simp only [hloop]

end

/-- A settled declaration is made of the unmarked one and of the names. -/
theorem settled_eq (d : Declaration) (r : NameResolver) :
    d.settled r =
      { d.unmarked with
        parameters := List.zipWith (fun p name => { p with primaryName := name })
          d.unmarked.parameters (d.parameters.map r.resolve) } := by
  have hparameters : d.parameters.map (Parameter.settled r) =
      List.zipWith (fun p name => { p with primaryName := name })
        (d.parameters.map Parameter.unmarked) (d.parameters.map r.resolve) := by
    rw [List.zipWith_map, List.zipWith_self]
    rfl
  rw [settled, hparameters]
  rfl

/-- Declarations that differ in the markers only, and whose parameters have the same names, are
compiled to the same. -/
theorem result_compile_congr {d d' : Declaration} {r : NameResolver}
    (hd : d.unmarked = d'.unmarked)
    (hnames : d.parameters.map r.resolve = d'.parameters.map r.resolve) (settings : Settings) :
    (d.compile settings r).result = (d'.compile settings r).result := by
  rw [← result_compile_settled d r false, ← result_compile_settled d' r false, settled_eq,
    settled_eq, hd, hnames]

/-- Both declarations are compiled to the same method or have the same error. So a call of the one
gives the request that the call of the other gives. -/
structure CompiledAlike (settings : Settings) (d d' : Declaration) : Prop where
  result : (d.compile settings (.standard settings.legacyNames)).result =
    (d'.compile settings (.standard settings.legacyNames)).result
  request : ∀ m m', (d.compile settings (.standard settings.legacyNames)).result = .ok m →
    (d'.compile settings (.standard settings.legacyNames)).result = .ok m' →
    ∀ args options, m.request args options = m'.request args options

theorem compiledAlike_of_resolve {d d' : Declaration} {settings : Settings}
    (hd : d.unmarked = d'.unmarked)
    (hnames : d.parameters.map (NameResolver.standard settings.legacyNames).resolve =
      d'.parameters.map (NameResolver.standard settings.legacyNames).resolve) :
    CompiledAlike settings d d' where
  result := result_compile_congr hd hnames settings
  request m m' hm hm' args options := by
    rw [result_compile_congr hd hnames settings, hm'] at hm
    rw [Except.ok.inj hm]

/-- The older marker compiles like the usual one. Where it is admitted, it is enough that two
declarations agree for every parameter on the first of both names that is not empty. Where it is
ruled out, they need to agree on the usual marker alone. They are compiled alike then, if they do
not differ in anything but the markers.

Only the names that are reported as ignored may differ. -/
theorem compiledAlike_of_markers (d d' : Declaration) (hd : d.unmarked = d'.unmarked)
    (charset : String) :
    (d.parameters.map (fun p => firstNonempty [p.primaryName, p.legacyName]) =
        d'.parameters.map (fun p => firstNonempty [p.primaryName, p.legacyName]) →
      CompiledAlike ⟨charset, true⟩ d d') ∧
    (d.parameters.map (fun p => firstNonempty [p.primaryName]) =
        d'.parameters.map (fun p => firstNonempty [p.primaryName]) →
      CompiledAlike ⟨charset, false⟩ d d') := by
  have hresolve : ∀ legacyNames : Bool, (NameResolver.standard legacyNames).resolve = fun p =>
      firstNonempty (if legacyNames then [p.primaryName, p.legacyName] else [p.primaryName]) :=
    fun legacyNames => funext (NameResolver.resolve_standard legacyNames)
  constructor
  · intro hnames
    refine compiledAlike_of_resolve hd ?_
    rw [hresolve]
    exact hnames
  · intro hnames
    refine compiledAlike_of_resolve hd ?_
    rw [hresolve]
    exact hnames

/-- The sample with its parameters marked in other ways: by the older marker alone, beside an empty
usual one, and by both with different names. -/
def remarkedSample : Declaration :=
  { sample with
    parameters :=
      [{ index := 0, name := "shop", legacyName := some "shop" },
       { index := 1, name := "tag", primaryName := some "", legacyName := some "tag" },
       { index := 2, name := "item", primaryName := some "item", legacyName := some "article" },
       { index := 3, name := "base", isUrl := true },
       { index := 4, name := "rest", primaryName := some "", legacyName := some "" }] }

/-- The sample with older markers that are not asked for. -/
def overmarkedSample : Declaration :=
  { sample with
    parameters := sample.parameters.map fun p => { p with legacyName := some "size" } }

theorem compiledAlike_sample :
    (remarkedSample.compile {} (.standard true)).result = .ok sampleMethod ∧
      CompiledAlike { legacyNames := false } sample overmarkedSample := by
  have hremarked : sample.unmarked = remarkedSample.unmarked := rfl
  have hovermarked : sample.unmarked = overmarkedSample.unmarked := rfl
  constructor
  · have halike := (compiledAlike_of_markers sample remarkedSample hremarked "utf-8").1 (by decide)
    exact halike.result.symm.trans compile_sample
  · exact (compiledAlike_of_markers sample overmarkedSample hovermarked "utf-8").2 (by decide)

end Declaration

end HttpInterface
