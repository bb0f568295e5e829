import HttpInterface.Proofs.Class.Function
import HttpInterface.Proofs.Class.Hierarchy
import Mathlib.Data.List.Forall2
import Mathlib.Data.List.Nodup

/-!
# `HttpInterface.Proofs.Class.Describe`: the declarations of a row of classes

An interface is described by two walks through its row of classes: one gathers the headers, and one
visits the public functions, class by class. `describe_eq` puts them together, for rows of which
everything can be described (`Row.IsDescribable`).

The second walk fills a map, and `exists_foldlM_insert` is what filling a map under different names
comes to. So a row that defines no name twice makes one declaration of each function, in order
(`exists_describe`). In any other row there is a first function whose name is defined already, and
the walk fails there (`describe_overridden`).
-/

set_option autoImplicit false

namespace HttpInterface

/-! ### Filling a map -/

section

variable {α β κ ε : Type} [DecidableEq κ] {l : List α} {key : α → κ} {R : α → β → Prop}

/-- A row of steps, each of which sets another key, fills a map with one entry for each step, in
their order. -/
theorem exists_foldlM_insert
    {step : OrderedMap κ β → α → Except ε (OrderedMap κ β)}
    (hstep : ∀ a ∈ l, ∀ m, key a ∉ m.keys → ∃ b, R a b ∧ step m a = .ok (m.insert (key a) b))
    (hkeys : (l.map key).Nodup) :
    ∃ m, l.foldlM step .empty = .ok m ∧
      List.Forall₂ (fun a e => e.1 = key a ∧ R a e.2) l m.entries := by
  -- Generalised over the map that is filled.
  suffices h : ∀ (l : List α), (∀ a ∈ l, ∀ m, key a ∉ m.keys →
      ∃ b, R a b ∧ step m a = .ok (m.insert (key a) b)) →
      ∀ m : OrderedMap κ β, (m.keys ++ l.map key).Nodup →
        ∃ m' added, l.foldlM step m = .ok m' ∧ m'.entries = m.entries ++ added ∧
          List.Forall₂ (fun a e => e.1 = key a ∧ R a e.2) l added by
    obtain ⟨m', added, hfold, hentries, hadded⟩ := h l hstep .empty hkeys
    refine ⟨m', hfold, ?_⟩
    rw [hentries]
    exact hadded
  intro l
  induction l with
  | nil => exact fun _ m _ => ⟨m, [], rfl, (List.append_nil _).symm, .nil⟩
  | cons a l ih =>
    intro hstep m hnodup
    have hnew : key a ∉ m.keys := by
      intro ha
      exact (List.nodup_append.1 hnodup).2.2 _ ha _ (by simp) rfl
    obtain ⟨b, hb, hinsert⟩ := hstep a List.mem_cons_self m hnew
    have hentries := OrderedMap.entries_insert_of_not_mem hnew b
    have hkeys : (m.insert (key a) b).keys = m.keys ++ [key a] := by
      rw [OrderedMap.keys_insert, if_neg hnew]
    obtain ⟨m', added, hfold, hadded, hall⟩ :=
      ih (fun c hc => hstep c (List.mem_cons_of_mem a hc)) (m.insert (key a) b)
        (by rw [hkeys, List.append_assoc]; exact hnodup)
    refine ⟨m', (key a, b) :: added, ?_, ?_, .cons ⟨rfl, hb⟩ hall⟩
    · rw [List.foldlM_cons, hinsert]
      exact hfold
    · rw [hadded, hentries, List.append_assoc]
      rfl

/-- A row with a repeated key has a first element that repeats one. -/
theorem exists_first_repeated (h : ¬(l.map key).Nodup) :
    ∃ front a back, l = front ++ a :: back ∧ (front.map key).Nodup ∧ key a ∈ front.map key := by
  induction l using List.reverseRecOn with
  | nil => exact absurd List.nodup_nil h
  | append_singleton l a ih =>
    by_cases hl : (l.map key).Nodup
    · refine ⟨l, a, [], rfl, hl, ?_⟩
      by_contra hnew
      refine h ?_
      rw [List.map_append, List.nodup_append]
      refine ⟨hl, List.nodup_singleton _, ?_⟩
      rintro k hk b hb rfl
      exact hnew (List.mem_singleton.1 hb ▸ hk)
    · obtain ⟨front, b, back, rfl, hfront, hb⟩ := ih hl
      exact ⟨front, b, back ++ [a], by simp, hfront, hb⟩

end

/-! ### The functions of a row -/

/-- Classes in the order in which an interface walks through them. -/
abbrev Row := List DefinedClass

namespace Row

/-- The public functions of a row, class by class. -/
def functions (row : Row) : List (String × FunctionDef) :=
  row.flatMap fun k => k.definition.publicFunctions

/-- The headers that the marks of a row state, class by class. -/
def headers (row : Row) : List Value :=
  row.flatMap fun k => k.definition.decorators.flatMap Decorator.headerValues

/-- No two classes define a public function of one name. -/
def KeepsNames (row : Row) : Prop :=
  row.Pairwise fun a b =>
    (a.definition.publicFunctions.map Prod.fst).Disjoint
      (b.definition.publicFunctions.map Prod.fst)

/-- Everything in a row can be described: no class writes the record of its marks itself, the
headers are texts, and every function can be described. -/
structure IsDescribable (row : Row) : Prop where
  records : ∀ k ∈ row, k.LeavesRecord
  headers : ∀ v ∈ row.headers, v.IsText
  functions : ∀ e ∈ row.functions, e.2.IsDescribable

theorem IsDescribable.exists_declares {row : Row} (h : row.IsDescribable) (interface : String)
    {e : String × FunctionDef} (he : e ∈ row.functions) :
    ∃ d, e.2.Declares interface row.headers d := by
  obtain ⟨d, hd, -⟩ := (h.functions e he).exists_declares interface h.headers
  exact ⟨d, hd⟩

/-- The declarations that the functions of such a row make can be told. -/
theorem IsDescribable.isTellable {row : Row} (h : row.IsDescribable) {interface : String}
    {declarations : List Declaration}
    (hall : List.Forall₂ (fun e d => e.2.Declares interface row.headers d) row.functions
      declarations) : ∀ d ∈ declarations, d.IsTellable := by
  intro d hd
  obtain ⟨i, hi, rfl⟩ := List.getElem_of_mem hd
  have hi' : i < row.functions.length := hall.length_eq ▸ hi
  exact (h.functions _ (List.getElem_mem hi')).isTellable h.headers (hall.get hi' hi)

theorem keepsNames_iff {row : Row} : row.KeepsNames ↔ (row.functions.map Prod.fst).Nodup := by
  rw [functions, List.map_flatMap, List.nodup_flatMap]
  exact (and_iff_right fun k _ => k.definition.nodup_publicFunctions).symm

end Row

namespace ClassTable

variable {table : ClassTable} {chain : List DefinedClass} {c : DefinedClass} {interface : String}
  {headers : List Value} {entries : List (String × FunctionDef)}

/-! ### The two walks -/

/-- Functions with different names make one declaration each, in their order. -/
theorem exists_addDeclarations
    (hdeclares : ∀ e ∈ entries, ∃ d, e.2.Declares interface headers d)
    (hnames : (entries.map Prod.fst).Nodup) :
    ∃ m, entries.foldlM (addDeclaration interface headers) .empty = .ok m ∧
      List.Forall₂ (fun e p => p.1 = e.1 ∧ e.2.Declares interface headers p.2) entries
        m.entries := by
  refine exists_foldlM_insert (fun e he m hnew => ?_) hnames
  obtain ⟨d, hd⟩ := hdeclares e he
  have hcontains : m.contains e.1 = false := by
    rw [← Bool.not_eq_true, OrderedMap.contains_iff]
    exact hnew
  refine ⟨d, hd, ?_⟩
  rw [addDeclaration, hd.described]
  refine bind_eq_ok.2 ⟨d, rfl, ?_⟩
  rw [hcontains]
  rfl

/-- A function whose name is there already makes no declaration. -/
theorem addDeclaration_of_mem {m : OrderedMap String Declaration} {e : String × FunctionDef}
    {d : Declaration} (hd : e.2.Declares interface headers d) (htold : d.IsTellable)
    (hmem : e.1 ∈ m.keys) :
    addDeclaration interface headers m e =
      .error (.defect ⟨.overriddenMethod, some d.configKey⟩) := by
  rw [addDeclaration, hd.described]
  refine bind_eq_error.2 (Or.inr ⟨d, rfl, ?_⟩)
  rw [OrderedMap.contains_iff.2 hmem, Declaration.tellKey, if_pos htold.hasTellableKey]
  rfl

/-- To walk class by class is to walk through all functions. -/
theorem foldlM_addDeclarations {row : Row}
    (h : ∀ k ∈ row, k.publicFunctions = k.definition.publicFunctions)
    (m : OrderedMap String Declaration) :
    (row.map InterfaceClass.defined).foldlM (addDeclarations interface headers) m =
      row.functions.foldlM (addDeclaration interface headers) m := by
  induction row generalizing m with
  | nil => rfl
  | cons k row ih =>
    have hrow := ih fun k' hk' => h k' (List.mem_cons_of_mem k hk')
    rw [List.map_cons, List.foldlM_cons, Row.functions, List.flatMap_cons, List.foldlM_append,
      addDeclarations, h k List.mem_cons_self]
    exact congrArg (_ >>= ·) (funext hrow)

/-- The classes that an interface walks through. -/
def walked (chain : List DefinedClass) : Row :=
  chain.filter fun k => !k.isOfPackage hiddenPackage

/-- An interface is described by one walk through the functions of its row, with the headers of
the row. -/
theorem describe_eq (hsound : Sound table) (hchain : Chain table chain c)
    (hplain : table.isParameterized c = false)
    (hrecords : ∀ k ∈ walked chain, k.LeavesRecord) :
    table.describe c = ((walked chain).functions.foldlM
      (addDeclaration c.definition.name (walked chain).headers) .empty).map OrderedMap.values := by
  have hnamed : ∀ k ∈ walked chain, ∃ own, Named k own := by
    intro k hk
    exact (hsound.knows _ _ (hchain.line.get?_of_mem k (List.mem_filter.1 hk).1)).names
  have hheaders : ((walked chain).map InterfaceClass.defined).mapM InterfaceClass.headerList =
      .ok ((walked chain).map fun k => k.definition.decorators.flatMap Decorator.headerValues) := by
    rw [List.mapM_map]
    refine mapM_eq_ok fun k hk => ?_
    obtain ⟨own, hown⟩ := hnamed k hk
    exact mapError_eq_ok.2 (hown.headerList_eq (hrecords k hk))
  have hfunctions : ∀ k ∈ walked chain, k.publicFunctions = k.definition.publicFunctions := by
    intro k hk
    obtain ⟨own, hown⟩ := hnamed k hk
    exact hown.publicFunctions_eq (hrecords k hk)
  have hclasses : table.interfaceClasses c = (walked chain).map .defined :=
    hchain.line.interfaceClasses_eq hsound
  simp only [describe, hchain.checkInterface_eq hplain, hclasses, hheaders,
    foldlM_addDeclarations hfunctions]
  -- Neither the checks nor the headers fail, so the walk through the functions is what is left.
  show ((walked chain).functions.foldlM
    (addDeclaration c.definition.name (walked chain).headers) .empty >>= fun declared =>
      pure declared.values) = _
  cases (walked chain).functions.foldlM
    (addDeclaration c.definition.name (walked chain).headers) .empty <;> rfl

/-- Where no name is defined by two classes, every function makes one declaration, in order. -/
theorem exists_describe (hsound : Sound table) (hchain : Chain table chain c)
    (hplain : table.isParameterized c = false) (hrow : (walked chain).IsDescribable)
    (hnames : (walked chain).KeepsNames) :
    ∃ declarations, table.describe c = .ok declarations ∧
      List.Forall₂ (fun e d => e.2.Declares c.definition.name (walked chain).headers d)
        (walked chain).functions declarations := by
  obtain ⟨m, hfold, hall⟩ := exists_addDeclarations
    (fun e he => hrow.exists_declares c.definition.name he) (Row.keepsNames_iff.1 hnames)
  refine ⟨m.values, ?_, ?_⟩
  · rw [describe_eq hsound hchain hplain hrow.records, hfold]
    rfl
  · rw [OrderedMap.values, List.forall₂_map_right_iff]
    exact hall.imp fun _ _ h => h.2

/-- Where a name is defined by two classes, the first function that has such a name for the second
time is told. -/
theorem describe_overridden (hsound : Sound table) (hchain : Chain table chain c)
    (hplain : table.isParameterized c = false) (hrow : (walked chain).IsDescribable)
    (hnames : ¬(walked chain).KeepsNames) :
    ∃ front e back d, (walked chain).functions = front ++ e :: back ∧
      (front.map Prod.fst).Nodup ∧ e.1 ∈ front.map Prod.fst ∧
      e.2.Declares c.definition.name (walked chain).headers d ∧
      table.describe c = .error (.defect ⟨.overriddenMethod, some d.configKey⟩) := by
  rw [Row.keepsNames_iff] at hnames
  obtain ⟨front, e, back, hsplit, hfront, hmem⟩ := exists_first_repeated hnames
  have hdeclares : ∀ e ∈ (walked chain).functions,
      ∃ d, e.2.Declares c.definition.name (walked chain).headers d :=
    fun e he => hrow.exists_declares c.definition.name he
  obtain ⟨m, hfold, hall⟩ := exists_addDeclarations
    (fun e he => hdeclares e (by rw [hsplit]; exact List.mem_append_left _ he)) hfront
  obtain ⟨d, hd⟩ := hdeclares e (by simp [hsplit])
  have hkeys : front.map Prod.fst = m.keys := by
    rw [OrderedMap.keys, ← List.forall₂_eq_eq_eq, List.forall₂_map_left_iff,
      List.forall₂_map_right_iff]
    exact hall.imp fun _ _ h => h.1.symm
  have htold : d.IsTellable :=
    (hrow.functions e (by simp [hsplit])).isTellable hrow.headers hd
  refine ⟨front, e, back, d, hsplit, hfront, hmem, hd, ?_⟩
  rw [describe_eq hsound hchain hplain hrow.records, foldlM_eq_error.2
    ⟨front, e, back, m, hsplit, hfold, addDeclaration_of_mem hd htold (hkeys ▸ hmem)⟩]
  rfl

end ClassTable

end HttpInterface
