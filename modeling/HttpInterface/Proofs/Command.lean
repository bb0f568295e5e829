import HttpInterface.Command
import HttpInterface.Proofs.Compile.Consistency
import HttpInterface.Proofs.Compile.Failure

/-!
# `HttpInterface.Proofs.Command`: how an inspection ends

An interface is compiled declaration by declaration, and the first one that fails decides
(`ClassTable.compile_cases`). The key of each is told before, and that may fail as well. So once
an interface is described, an inspection ends in one of the ways that are the constructors of
`Command.Ends`: it prints the methods that the declarations are compiled to, or it tells a
defect. Or a body has no bytes in the charset, or a type has no text that can be told; then
nothing is told, and the failure is handed on.

`failures_told` puts this together with the failures of a single declaration
(`Declaration.FailsOnly`).
-/

set_option autoImplicit false

namespace HttpInterface

/-- The first of some declarations that is not compiled, and why. -/
def Declaration.FirstFailure (declarations : List Declaration) (settings : Settings)
    (r : NameResolver) (d : Declaration) (e : CompileError) : Prop :=
  ∃ front back, declarations = front ++ d :: back ∧
    (∀ c ∈ front, ∃ m, (c.compile settings r).result = .ok m) ∧
    (d.compile settings r).result = .error e

/-- The first of some declarations that is not compiled has a key that cannot be told. -/
def Declaration.FirstUntold (declarations : List Declaration) (settings : Settings)
    (r : NameResolver) : Prop :=
  ∃ front d back, declarations = front ++ d :: back ∧
    (∀ c ∈ front, ∃ m, (c.compile settings r).result = .ok m) ∧ d.hasTellableKey = false

theorem Declaration.not_firstUntold {declarations : List Declaration} {settings : Settings}
    {r : NameResolver} (h : ∀ d ∈ declarations, d.IsTellable) :
    ¬FirstUntold declarations settings r := by
  rintro ⟨front, d, back, hsplit, -, hkey⟩
  have htold := (h d (by simp [hsplit])).hasTellableKey
  exact nomatch hkey.symm.trans htold

/-- A declaration is compiled under its key if the key can be told. -/
theorem Declaration.result_compileUnderKey (d : Declaration) (settings : Settings)
    (r : NameResolver) :
    (d.compileUnderKey settings r).result =
      if d.hasTellableKey then (d.compile settings r).result.mapError .compile
      else .error (.describe (.type .tooManyDigits)) := by
  rw [compileUnderKey, tellKey, Journaled.result_bind, Journaled.result_ofExcept]
  cases d.hasTellableKey with
  | true => rfl
  | false => rfl

namespace ClassTable

variable {table : ClassTable} {c : DefinedClass} {settings : Settings} {r : NameResolver}
  {declarations : List Declaration}

/-- Adds the method of one more declaration. -/
def addMethod (settings : Settings) (r : NameResolver)
    (compiled : OrderedMap String CompiledMethod) (d : Declaration) :
    Except InterfaceError (OrderedMap String CompiledMethod) := do
  let m ← (d.compileUnderKey settings r).result
  pure (compiled.insert m.configKey m)

/-- Once an interface is described, its declarations are compiled in order. -/
theorem result_compile_of_describe (h : table.describe c = .ok declarations) :
    (table.compile c settings r).result =
      declarations.foldlM (addMethod settings r) .empty := by
  simp only [compile, h, Journaled.result_bind, Journaled.result_ofExcept,
    Journaled.result_foldlM]
  exact bind_pure (declarations.foldlM (addMethod settings r) OrderedMap.empty)

/-- A method that is added is the one that a declaration is compiled to. -/
theorem addMethod_eq_ok {compiled compiled' : OrderedMap String CompiledMethod} {d : Declaration}
    (h : addMethod settings r compiled d = .ok compiled') :
    ∃ m, (d.compile settings r).result = .ok m ∧ compiled' = compiled.insert m.configKey m := by
  obtain ⟨m, hm, h⟩ := bind_eq_ok.1 h
  rw [Declaration.result_compileUnderKey] at hm
  split at hm
  · exact ⟨m, mapError_eq_ok.1 hm, (Except.ok.inj h).symm⟩
  · cases hm

theorem addMethod_eq_error {compiled : OrderedMap String CompiledMethod} {d : Declaration}
    {e : InterfaceError} (h : addMethod settings r compiled d = .error e) :
    (∃ e', e = .compile e' ∧ (d.compile settings r).result = .error e') ∨
      e = .describe (.type .tooManyDigits) ∧ d.hasTellableKey = false := by
  rw [addMethod, Declaration.result_compileUnderKey] at h
  -- The key is told first, and only then the declaration is compiled.
  cases hkey : d.hasTellableKey with
  | false =>
    rw [hkey] at h
    exact Or.inr ⟨(Except.error.inj h).symm, rfl⟩
  | true =>
    rw [hkey] at h
    cases hresult : (d.compile settings r).result with
    | ok m =>
      rw [hresult] at h
      cases h
    | error e' =>
      rw [hresult] at h
      exact Or.inl ⟨e', (Except.error.inj h).symm, rfl⟩

theorem exists_of_foldlM_addMethod {compiled compiled' : OrderedMap String CompiledMethod}
    (h : declarations.foldlM (addMethod settings r) compiled = .ok compiled') :
    ∀ d ∈ declarations, ∃ m, (d.compile settings r).result = .ok m := by
  intro d hd
  obtain ⟨_, _, hadd⟩ := exists_ok_of_foldlM_eq_ok h d hd
  obtain ⟨m, hm, -⟩ := addMethod_eq_ok hadd
  exact ⟨m, hm⟩

/-- Every method of an interface is the one that some declaration is compiled to. -/
theorem exists_of_mem_methods {methods : OrderedMap String CompiledMethod}
    (h : declarations.foldlM (addMethod settings r) .empty = .ok methods) :
    ∀ m ∈ methods.values, ∃ d ∈ declarations, (d.compile settings r).result = .ok m := by
  refine foldlM_invariant (P := fun methods : OrderedMap String CompiledMethod =>
    ∀ m ∈ methods.values, ∃ d ∈ declarations, (d.compile settings r).result = .ok m) ?_ ?_ h
  · intro d hd compiled compiled' hcompiled hadd m' hm'
    obtain ⟨m, hm, rfl⟩ := addMethod_eq_ok hadd
    obtain ⟨e, he, rfl⟩ := List.mem_map.1 hm'
    rcases OrderedMap.mem_entries_insert.1 he with rfl | ⟨-, he⟩
    · exact ⟨d, hd, hm⟩
    · exact hcompiled _ (List.mem_map_of_mem he)
  · intro m hm
    exact absurd hm List.not_mem_nil

/-- An interface that is described is compiled as a whole, or its first declaration that is not
compiled decides. -/
theorem compile_cases (settings : Settings) (r : NameResolver)
    (h : table.describe c = .ok declarations) :
    (∃ methods, (table.compile c settings r).result = .ok methods ∧
      ∀ d ∈ declarations, ∃ m, (d.compile settings r).result = .ok m) ∨
    (∃ d e, Declaration.FirstFailure declarations settings r d e ∧
      (table.compile c settings r).result = .error (.compile e)) ∨
    Declaration.FirstUntold declarations settings r ∧
      (table.compile c settings r).result = .error (.describe (.type .tooManyDigits)) := by
  rw [result_compile_of_describe h]
  -- The fold adds every method, or it stops at the first declaration that has none.
  cases hfold : declarations.foldlM (addMethod settings r) .empty with
  | ok methods => exact Or.inl ⟨methods, rfl, exists_of_foldlM_addMethod hfold⟩
  | error e =>
    obtain ⟨front, d, back, compiled, hsplit, hfront, hd⟩ := foldlM_eq_error.1 hfold
    have hcompiled := exists_of_foldlM_addMethod hfront
    rcases addMethod_eq_error hd with ⟨e', rfl, he'⟩ | ⟨rfl, hkey⟩
    · exact Or.inr (Or.inl ⟨d, e', ⟨front, back, hsplit, hcompiled, he'⟩, rfl⟩)
    · exact Or.inr (Or.inr ⟨⟨front, d, back, hsplit, hcompiled, hkey⟩, rfl⟩)

end ClassTable

namespace Declaration

/-- How the compilation of a declaration may fail. -/
structure FailsOnly (d : Declaration) (settings : Settings) (r : NameResolver) : Prop where
  /-- First of all the key is told, which fails if the name of a type has no text. Nothing else is
  added by it. -/
  underKey : (d.compileUnderKey settings r).result =
    if d.hasTellableKey then (d.compile settings r).result.mapError .compile
    else .error (.describe (.type .tooManyDigits))
  /-- It gives a method, or it fails with a defect that carries the key of the declaration, or
  the body has no bytes. -/
  cases : (∃ m, (d.compile settings r).result = .ok m) ∨
    (∃ flaw, (d.compile settings r).result = .error (.defect ⟨flaw, some d.configKey⟩)) ∨
    ∃ error, (d.compile settings r).result = .error (.coding error)
  /-- It is the body exactly if the request line and the headers are well-formed and the charset
  fails for the body, which is encoded at once. -/
  coding : ∀ error, (d.compile settings r).result = .error (.coding error) ↔
    d.line?.isSome ∧ (∀ text ∈ d.headers, (Header.parse? text).isSome) ∧
      d.BodyFails settings.bodyCharset error
  /-- If the body has bytes, every failure is a defect. -/
  defect : d.BodyHasBytes settings.bodyCharset → ∀ e, (d.compile settings r).result = .error e →
    ∃ flaw, e = .defect ⟨flaw, some d.configKey⟩
  /-- The builder of the template hands it out, or fails for the same body: it is never used up,
  and it never lacks the method. -/
  builder : ∀ line, d.line? = some line → ∀ error,
    ((Builder.start settings.bodyCharset).run (d.changes line) >>= Builder.build) =
      .error error →
    ∃ e, error = .coding e ∧ d.BodyFails settings.bodyCharset e

theorem failsOnly (d : Declaration) (settings : Settings) (r : NameResolver) :
    d.FailsOnly settings r where
  underKey := d.result_compileUnderKey settings r
  cases := by
    cases hresult : (d.compile settings r).result with
    | ok m => exact Or.inl ⟨m, rfl⟩
    | error e =>
      rcases compile_failure hresult with ⟨flaw, rfl⟩ | ⟨error, rfl, -⟩
      · exact Or.inr (Or.inl ⟨flaw, rfl⟩)
      · exact Or.inr (Or.inr ⟨error, rfl⟩)
  coding _ := compile_eq_coding
  defect hbytes e he := by
    rcases compile_failure he with hflaw | ⟨error, -, hbody⟩
    · exact hflaw
    · exact absurd hbody (not_bodyFails hbytes error)
  builder _ hline _ := bodyFails_of_build hline

end Declaration

namespace Command

/-- How an inspection ends once the declarations of an interface are known. -/
inductive Ends (table : ClassTable) (c : DefinedClass) (declarations : List Declaration)
    (settings : Settings) (r : NameResolver) : Outcome → Prop
  /-- The methods are printed that the declarations are compiled to, all of them. -/
  | methods (log : List String) (methods : OrderedMap String CompiledMethod) :
      (table.compile c settings r).result = .ok methods →
      (∀ d ∈ declarations, ∃ m, (d.compile settings r).result = .ok m) →
      (∀ m ∈ methods.values, m.isDescribable = true) →
      Ends table c declarations settings r
        { exitCode := 0, stdout := unlines [methodsText methods], stderr := unlines log }
  /-- The defect of the first declaration that is not compiled is told. -/
  | defect (log : List String) (d : Declaration) (flaw : Flaw) :
      Declaration.FirstFailure declarations settings r d (d.defect flaw) →
      Ends table c declarations settings r
        { exitCode := 1
          stderr := unlines (log ++ ["Error: " ++ (Defect.mk flaw (some d.configKey)).message]) }
  /-- The body of the first declaration that is not compiled has no bytes. Nothing is told. -/
  | coding (log : List String) (d : Declaration) (error : CodingError) :
      Declaration.FirstFailure declarations settings r d (.coding error) →
      d.BodyFails settings.bodyCharset error →
      Ends table c declarations settings r
        { exitCode := 1, stderr := unlines log, failure := some (.coding error) }
  /-- The key of the first declaration that is not compiled cannot be told, or all are compiled and
  the type of a body cannot. Nothing is told. -/
  | untold (log : List String) :
      (Declaration.FirstUntold declarations settings r ∨
        ∃ methods, (table.compile c settings r).result = .ok methods ∧
          ∃ m ∈ methods.values, m.isDescribable = false) →
      Ends table c declarations settings r
        { exitCode := 1, stderr := unlines log, failure := some (.type .tooManyDigits) }

section

variable {table : ClassTable} {c : DefinedClass} {declarations : List Declaration}
  {settings : Settings} {r : NameResolver} (hdescribed : table.describe c = .ok declarations)
include hdescribed

/-- Where every body has bytes and every type can be told, no failure is handed on. -/
theorem Ends.failure_eq_none {o : Outcome} (h : Ends table c declarations settings r o)
    (hbytes : ∀ d ∈ declarations, d.BodyHasBytes settings.bodyCharset)
    (htold : ∀ d ∈ declarations, d.IsTellable) : o.failure = none := by
  cases h with
  | methods => rfl
  | defect => rfl
  | coding log d error hfirst hbody =>
    obtain ⟨front, back, hsplit, -, -⟩ := hfirst
    exact absurd hbody (Declaration.not_bodyFails (hbytes d (by simp [hsplit])) error)
  | untold log huntold =>
    rcases huntold with hfirst | ⟨methods, hmethods, m, hm, hnot⟩
    · exact absurd hfirst (Declaration.not_firstUntold htold)
    · -- A method of the map is that of a declaration, and the type of its body is one of those.
      rw [ClassTable.result_compile_of_describe hdescribed] at hmethods
      obtain ⟨d, hd, hcompiled⟩ := ClassTable.exists_of_mem_methods hmethods m hm
      cases hnot.symm.trans ((htold d hd).isDescribable hcompiled)

theorem ends_compiledOutcome (log : List String) :
    Ends table c declarations settings r
      (compiledOutcome log (table.compile c settings r).result) := by
  rcases ClassTable.compile_cases settings r hdescribed with
    ⟨methods, hresult, hall⟩ | ⟨d, e, hfirst, hresult⟩ | ⟨hfirst, hresult⟩
  · rw [hresult, compiledOutcome]
    -- The methods are printed only if each of them can be described.
    split
    · next htold => exact .methods log methods hresult hall (List.all_eq_true.1 htold)
    · next huntold =>
      obtain ⟨m, hm, hnot⟩ := List.all_eq_false.1 (Bool.eq_false_iff.2 huntold)
      exact .untold log (Or.inr ⟨methods, hresult, m, hm, Bool.eq_false_iff.2 hnot⟩)
  · rw [hresult]
    obtain ⟨front, back, hsplit, hfront, he⟩ := hfirst
    rcases Declaration.compile_failure he with ⟨flaw, rfl⟩ | ⟨error, rfl, hbody⟩
    · exact .defect log d flaw ⟨front, back, hsplit, hfront, he⟩
    · exact .coding log d error ⟨front, back, hsplit, hfront, he⟩ hbody
  · rw [hresult]
    exact .untold log (Or.inl hfirst)

end

section

variable {catalog : Catalog} {environment : Environment} {target : String} {m : InterfaceModule}
  {c : DefinedClass} {declarations : List Declaration} {settings : Settings}

/-- An inspection up to the description of the interface. -/
theorem ends_inspect (hvariables : environment.fileVariables.forM Variable.check = .ok ())
    (htarget : catalog.find target = .ok (m, c))
    (hsettings : Settings.ofEnvironment environment.get? = .ok settings)
    (hdescribed : m.classes.describe c = .ok declarations) (verbose : Bool) :
    Ends m.classes c declarations settings (.standard settings.legacyNames)
      (inspect catalog environment target verbose) := by
  simp only [inspect, hvariables, htarget, hsettings]
  exact ends_compiledOutcome hdescribed _

end

/-- Every failure of compilation is a defect, unless a body has no bytes in its charset. With the
same exception an inspection tells every failure, as long as every type has a text. -/
theorem failures_told (d : Declaration) (settings : Settings) (r : NameResolver)
    (catalog : Catalog) (environment : Environment) (target : String) (verbose : Bool)
    (m : InterfaceModule) (c : DefinedClass) (accepted : Settings)
    (declarations : List Declaration)
    (hvariables : environment.fileVariables.forM Variable.check = .ok ())
    (htarget : catalog.find target = .ok (m, c))
    (hsettings : Settings.ofEnvironment environment.get? = .ok accepted)
    (hdescribed : m.classes.describe c = .ok declarations) :
    d.FailsOnly settings r ∧
      Ends m.classes c declarations accepted (.standard accepted.legacyNames)
        (inspect catalog environment target verbose) ∧
      ((∀ d ∈ declarations, d.BodyHasBytes accepted.bodyCharset) →
        (∀ d ∈ declarations, d.IsTellable) →
        (inspect catalog environment target verbose).failure = none) := by
  have hends := ends_inspect hvariables htarget hsettings hdescribed verbose
  exact ⟨d.failsOnly settings r, hends, hends.failure_eq_none hdescribed⟩

/-- A declaration whose body not every charset can encode. -/
def menu : Declaration where
  declaringType := "Cafe"
  methodName := "order"
  requestLine := some "POST /orders"
  body := some "café"

/-- The class that makes the declaration. -/
def menuClass : DefinedClass where
  definition := { name := "Cafe" }
  index := 0
  bases := [.object]
  ancestors := [.defined 0, .object]
  typeParameters := none
  namespaceMap := ⟨[("order", .function
    { name := "order"
      decorators := [.requestLine (.text "POST /orders"), .body (.text "café")]
      parameters := [{ name := "self" }] })], by decide⟩

/-- The module of the class. -/
def menuModule : InterfaceModule where
  classes := { package := "app", classes := [menuClass] }

/-- In UTF-8 the body has bytes. -/
theorem failures_told_menu :
    menu.FailsOnly {} (.standard true) ∧
      Ends menuModule.classes menuClass [menu] {} (.standard true)
        (inspect [menuModule] { entries := [] } "app:Cafe" false) ∧
      (inspect [menuModule] { entries := [] } "app:Cafe" false).failure = none := by
  have hbytes : ∀ d ∈ [menu], d.BodyHasBytes "utf-8" := by
    intro d hd text htext _
    exact ⟨Charset.Utf8.encode text.toList, rfl⟩
  have htold : ∀ d ∈ [menu], d.IsTellable := by
    simp [Declaration.IsTellable, menu]
  obtain ⟨hfails, hends, hnone⟩ := failures_told menu {} (.standard true) [menuModule]
    { entries := [] } "app:Cafe" false menuModule menuClass {} [menu] rfl rfl rfl rfl
  exact ⟨hfails, hends, hnone hbytes htold⟩

/-- In ASCII it has none. The failure is no defect, and the inspection tells nothing. -/
theorem menu_in_ascii :
    (∀ flaw, (menu.compile { bodyCharset := "ascii" } (.standard true)).result ≠
      .error (menu.defect flaw)) ∧
    inspect [menuModule] { entries := [⟨"RESTLINE_BODY_CHARSET", "ascii"⟩] } "app:Cafe" false =
      { exitCode := 1, failure := some (.coding (.unencodable .ascii ⟨'é', 3, 3⟩)) } := by
  have hresult : (menu.compile { bodyCharset := "ascii" } (.standard true)).result =
      .error (.coding (.unencodable .ascii ⟨'é', 3, 3⟩)) := rfl
  refine ⟨fun flaw h => ?_, rfl⟩
  exact nomatch hresult.symm.trans h

end Command

end HttpInterface
