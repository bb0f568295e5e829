import HttpInterface.Proofs.Class.Compile
import Mathlib.Logic.Relation

/-!
# `HttpInterface.Proofs.Class.Bases`: interfaces with several bases

An interface is not described if its class has several parents (`describe_of_parents`). Only the
class itself is checked. Where its ancestors have one parent each at most, its classes stand in a
row (`exists_line`). Then every order of the ancestors in which classes stand in front of their
bases shows that row in the same way (`Line.filter_of_linearizes`), and so the interface has the
same declarations in every such order (`describe_of_filter_eq`).

`line_of_describe` is the result. An ancestor with several parents is not found by the check:
`team_is_described` has an interface with the headers and the methods of two classes that have
nothing to do with each other, and their order is a matter of the linearization.
-/

set_option autoImplicit false

namespace HttpInterface

/-- In a row without repetitions the places go up. -/
theorem pairwise_idxOf {α : Type} [DecidableEq α] {l : List α} (hnodup : l.Nodup) :
    l.Pairwise fun a b => l.idxOf a < l.idxOf b := by
  refine List.pairwise_iff_getElem.2 fun i j hi hj hij => ?_
  rwa [hnodup.idxOf_getElem, hnodup.idxOf_getElem]

namespace ClassTable

variable {table : ClassTable} {row : List DefinedClass} {c b k : DefinedClass}
  {order : List Ancestor} {declarations : List Declaration}

/-! ### Several parents -/

/-- What is told of a class with several parents: that it has type parameters, or else that it has
several bases. -/
def severalParents (table : ClassTable) (c : DefinedClass) : Flaw :=
  if table.isParameterized c then .parameterizedInterface c.definition.name
  else .severalBases c.definition.name

theorem describe_of_parents (h : 1 < c.parents.length) :
    table.describe c = .error (.defect ⟨table.severalParents c, none⟩) := by
  have hown : 1 < c.ownBases.length := by
    rw [← filter_ownBases] at h
    exact Nat.lt_of_lt_of_le h (List.length_filter_le _ _)
  have hbases : (c.bases.filter fun b => b ≠ .object ∧ b ≠ .protocol) = c.ownBases := rfl
  cases hplain : table.isParameterized c with
  | true =>
    simp only [describe, checkInterface, severalParents, hplain]
    rfl
  | false =>
    simp only [describe, checkInterface, severalParents, hplain, hbases, if_pos hown]
    rfl

/-! ### Bases and ancestors -/

/-- The class has the other one as a base. -/
def HasBase (table : ClassTable) (c b : DefinedClass) : Prop :=
  .defined b.index ∈ c.bases ∧ table.get? b.index = some b

theorem ancestorsOf_of_get? (h : table.get? b.index = some b) :
    table.ancestorsOf (.defined b.index) = b.ancestors := by
  rw [ancestorsOf, h]
  rfl

/-- A base that is a class of the table stands in front of the class there. -/
theorem exists_base (hsound : Sound table) (hget : table.get? c.index = some c) {j : Nat}
    (h : .defined j ∈ c.bases) : ∃ b, table.HasBase c b ∧ b.index = j ∧ b.index < c.index := by
  have hlt : j < c.index := (hsound.knows _ _ hget).bases j h
  have hlength : j < table.classes.length := hlt.trans (lt_of_get? hget)
  obtain ⟨b, hb⟩ : ∃ b, table.get? j = some b := ⟨_, List.getElem?_eq_getElem hlength⟩
  obtain rfl := hsound.index j b hb
  exact ⟨b, ⟨h, hb⟩, rfl, hlt⟩

/-- What holds of a class if it holds of its bases holds of every class. -/
theorem induction_on_bases (hsound : Sound table) {P : DefinedClass → Prop}
    (hstep : ∀ c, table.get? c.index = some c → (∀ b, table.HasBase c b → P b) → P c)
    (hget : table.get? c.index = some c) : P c := by
  induction hindex : c.index using Nat.strong_induction_on generalizing c with
  | _ n ih =>
    refine hstep c hget fun b hb => ?_
    have hlt : b.index < c.index := (hsound.knows _ _ hget).bases _ hb.1
    exact ih b.index (hindex ▸ hlt) hb.2 rfl

/-- What stands behind a class among its ancestors: its bases with all that they have, and no
other class of the table. -/
structure Behind (table : ClassTable) (c : DefinedClass) (order : List Ancestor) : Prop where
  ancestors : c.ancestors = .defined c.index :: order
  nodup : order.Nodup
  bases : c.bases.Sublist order
  ofBase : ∀ b, table.HasBase c b → b.ancestors.Sublist order
  exists_base : ∀ j, .defined j ∈ order → ∃ b, table.HasBase c b ∧ .defined j ∈ b.ancestors

section

variable (hsound : Sound table) (hget : table.get? c.index = some c)
include hsound hget

theorem exists_behind : ∃ order, table.Behind c order := by
  obtain ⟨order, hmerges, hancestors⟩ := (hsound.knows _ _ hget).ancestors
  refine ⟨order, hancestors, hmerges.nodup, hmerges.sublist _ (by simp), fun b hb => ?_, ?_⟩
  · rw [← ancestorsOf_of_get? hb.2]
    exact hmerges.sublist _ (List.mem_append_left _ (List.mem_map_of_mem hb.1))
  · intro j hj
    obtain ⟨l, hl, hjl⟩ := hmerges.exists_mem _ hj
    rcases List.mem_append.1 hl with hl | hl
    -- The class is an ancestor of a base, which is a class of the table then.
    · obtain ⟨a, ha, rfl⟩ := List.mem_map.1 hl
      cases a with
      | defined i =>
        obtain ⟨b, hb, rfl, -⟩ := exists_base hsound hget ha
        exact ⟨b, hb, ancestorsOf_of_get? hb.2 ▸ hjl⟩
      | object | protocol | generic | url => simp [ancestorsOf] at hjl
    -- It is a base, and stands among its own ancestors.
    · obtain rfl := List.mem_singleton.1 hl
      obtain ⟨b, hb, rfl, -⟩ := exists_base hsound hget hjl
      obtain ⟨_, -, hbancestors⟩ := (hsound.knows _ _ hb.2).ancestors
      exact ⟨b, hb, hbancestors ▸ List.mem_cons_self⟩

/-- No class is an ancestor of one that is defined before it. -/
theorem le_of_mem_ancestors {j : Nat} (h : .defined j ∈ c.ancestors) : j ≤ c.index := by
  refine induction_on_bases hsound (P := fun c => .defined j ∈ c.ancestors → j ≤ c.index)
    (fun c hget ih h => ?_) hget h
  obtain ⟨order, hbehind⟩ := exists_behind hsound hget
  rw [hbehind.ancestors, List.mem_cons, Ancestor.defined.injEq] at h
  rcases h with rfl | h
  · exact Nat.le_refl _
  · obtain ⟨b, hb, hj⟩ := hbehind.exists_base j h
    exact (ih b hb hj).trans ((hsound.knows _ _ hget).bases _ hb.1).le

theorem nodup_ancestors : c.ancestors.Nodup := by
  obtain ⟨order, hbehind⟩ := exists_behind hsound hget
  rw [hbehind.ancestors]
  refine List.nodup_cons.2 ⟨fun hself => ?_, hbehind.nodup⟩
  obtain ⟨b, hb, hc⟩ := hbehind.exists_base c.index hself
  have hle : c.index ≤ b.index := le_of_mem_ancestors hsound hb.2 hc
  exact Nat.not_lt.2 hle ((hsound.knows _ _ hget).bases _ hb.1)

/-- Every class among the ancestors stands in front of its bases. -/
theorem pair_sublist_ancestors (hk : table.get? k.index = some k)
    (hmem : .defined k.index ∈ c.ancestors) {a : Ancestor} (ha : a ∈ k.bases) :
    [.defined k.index, a].Sublist c.ancestors := by
  refine induction_on_bases hsound
    (P := fun c => .defined k.index ∈ c.ancestors → [.defined k.index, a].Sublist c.ancestors)
    (fun c hget ih hmem => ?_) hget hmem
  obtain ⟨order, hbehind⟩ := exists_behind hsound hget
  rw [hbehind.ancestors, List.mem_cons, Ancestor.defined.injEq] at hmem
  rw [hbehind.ancestors]
  rcases hmem with heq | hmem
  · obtain rfl : k = c := Option.some.inj (hk.symm.trans (heq ▸ hget))
    exact ((List.singleton_sublist.2 ha).trans hbehind.bases).cons_cons _
  · obtain ⟨b, hb, hj⟩ := hbehind.exists_base _ hmem
    exact ((ih b hb hj).trans (hbehind.ofBase b hb)).cons _

end

/-! ### Rows -/

/-- Where the class of URLs is no ancestor and every ancestor has one parent at most, the classes
stand in a row. -/
theorem exists_line (hsound : Sound table) (hget : table.get? c.index = some c)
    (hurl : .url ∉ c.ancestors)
    (honce : ∀ k, Relation.ReflTransGen table.HasBase c k → k.parents.length ≤ 1) :
    ∃ row, Line table row c := by
  refine induction_on_bases hsound
    (P := fun c => .url ∉ c.ancestors →
      (∀ k, Relation.ReflTransGen table.HasBase c k → k.parents.length ≤ 1) →
      ∃ row, Line table row c)
    (fun c hget ih hurl honce => ?_) hget hurl honce
  obtain ⟨order, hbehind⟩ := exists_behind hsound hget
  cases hparents : c.parents with
  | nil => exact ⟨[c], .root hget hparents⟩
  | cons a rest =>
    have hrest : rest = [] := by
      have hlength := honce c .refl
      rw [hparents, List.length_cons] at hlength
      exact List.length_eq_zero_iff.1 (by omega)
    obtain ⟨ha, howned⟩ : a ∈ c.bases ∧ a.isOwn = true :=
      List.mem_filter.1 (show a ∈ c.parents from hparents ▸ List.mem_cons_self)
    -- The parent is a class of the table: what every class may have is no parent, and the class of
    -- URLs would be an ancestor.
    cases a with
    | object | protocol | generic => exact nomatch howned
    | url =>
      refine absurd ?_ hurl
      rw [hbehind.ancestors]
      exact List.mem_cons_of_mem _ (hbehind.bases.subset ha)
    | defined j =>
      obtain ⟨b, hb, rfl, -⟩ := exists_base hsound hget ha
      have hsub : b.ancestors ⊆ c.ancestors := by
        rw [hbehind.ancestors]
        exact List.subset_cons_of_subset _ (hbehind.ofBase b hb).subset
      obtain ⟨row, hrow⟩ := ih b hb (fun h => hurl (hsub h)) fun k hk => honce k (.head hb hk)
      exact ⟨row ++ [c], .derived hrow hget (hrest ▸ hparents)⟩

/-- The class of URLs is no ancestor of an interface that is described. -/
theorem url_not_mem_of_describe (h : table.describe c = .ok declarations) : .url ∉ c.ancestors := by
  intro hurl
  have hclass : InterfaceClass.url ∈ table.interfaceClasses c := by
    rw [interfaceClasses_eq_visit, List.mem_filterMap]
    exact ⟨.url, List.mem_reverse.2 (List.mem_filter.2 ⟨hurl, rfl⟩), rfl⟩
  rw [describe] at h
  obtain ⟨-, -, h⟩ := bind_eq_ok.1 h
  obtain ⟨headers, -, h⟩ := bind_eq_ok.1 h
  obtain ⟨declared, hdeclared, -⟩ := bind_eq_ok.1 h
  obtain ⟨_, _, hstep⟩ := exists_ok_of_foldlM_eq_ok hdeclared _ hclass
  cases hstep

/-! ### Other orders -/

/-- An order of the ancestors of a class in which every class stands in front of its bases. -/
structure Linearizes (table : ClassTable) (c : DefinedClass) (order : List Ancestor) : Prop where
  perm : order.Perm c.ancestors
  front : ∀ k, .defined k.index ∈ order → table.get? k.index = some k → ∀ a ∈ k.bases,
    order.idxOf (.defined k.index) < order.idxOf a

/-- The order of the ancestors that a class has is one. -/
theorem linearizes_ancestors (hsound : Sound table) (hget : table.get? c.index = some c) :
    table.Linearizes c c.ancestors where
  perm := .refl _
  front _ hmem hk _ ha := List.pairwise_iff_forall_sublist.1
    (pairwise_idxOf (nodup_ancestors hsound hget)) (pair_sublist_ancestors hsound hget hk hmem ha)

namespace Line

/-- Where classes stand in front of their bases, each class of a row stands in front of those before
it in the row. -/
theorem pairwise_of_front (h : Line table row c) (hmem : ∀ k ∈ row, .defined k.index ∈ order)
    (hfront : ∀ k, .defined k.index ∈ order → table.get? k.index = some k → ∀ a ∈ k.bases,
      order.idxOf (.defined k.index) < order.idxOf a) :
    (∀ k ∈ row, order.idxOf (.defined c.index) ≤ order.idxOf (.defined k.index)) ∧
      (row.map fun k => Ancestor.defined k.index).Pairwise
        fun a b => order.idxOf b < order.idxOf a := by
  induction h with
  | root => simp
  -- The class stands in front of its parent, and that in front of all before it.
  | @derived row b c _ hget hparents ih =>
    obtain ⟨hlast, hrow⟩ := ih fun k hk => hmem k (List.mem_append_left _ hk)
    have hstep : order.idxOf (.defined c.index) < order.idxOf (.defined b.index) :=
      hfront c (hmem c (by simp)) hget _ (mem_bases_of_parents hparents)
    constructor
    · intro k hk
      rcases List.mem_append.1 hk with hk | hk
      · exact hstep.le.trans (hlast k hk)
      · rw [List.mem_singleton.1 hk]
    · rw [List.map_append, List.pairwise_append]
      refine ⟨hrow, List.pairwise_singleton _ _, ?_⟩
      intro a ha a' ha'
      obtain ⟨k, hk, rfl⟩ := List.mem_map.1 ha
      obtain rfl := List.mem_singleton.1 ha'
      exact hstep.trans_le (hlast k hk)

/-- Every order of the ancestors shows the row in the same way. -/
theorem filter_of_linearizes (hsound : Sound table) (h : Line table row c)
    (horder : table.Linearizes c order) :
    order.filter Ancestor.isOwn = c.ancestors.filter Ancestor.isOwn := by
  have hperm := horder.perm.filter Ancestor.isOwn
  have hrow := h.filter_ancestors hsound
  have hmem : ∀ k ∈ row, .defined k.index ∈ order := by
    intro k hk
    have hown : .defined k.index ∈ c.ancestors.filter Ancestor.isOwn := by
      rw [hrow, List.mem_reverse]
      exact List.mem_map_of_mem hk
    exact (List.mem_filter.1 (hperm.mem_iff.2 hown)).1
  have hnodup : order.Nodup := horder.perm.nodup_iff.2 (nodup_ancestors hsound h.get?_eq)
  have hup : (order.filter Ancestor.isOwn).Pairwise fun a b => order.idxOf a < order.idxOf b :=
    (pairwise_idxOf hnodup).sublist List.filter_sublist
  have hup' : (c.ancestors.filter Ancestor.isOwn).Pairwise
      fun a b => order.idxOf a < order.idxOf b := by
    rw [hrow, List.pairwise_reverse]
    exact (h.pairwise_of_front hmem horder.front).2
  -- Both are the same classes with places that go up, so they are in the same order.
  refine hperm.eq_of_pairwise ?_ hup hup'
  exact fun a b _ _ hab hba => absurd hab (Nat.lt_asymm hba)

end Line

/-! ### What an interface sees of its ancestors -/

/-- The class without its ancestors. -/
def bare (k : DefinedClass) : DefinedClass :=
  { k with ancestors := [] }

/-- The class of an interface without its ancestors. -/
def InterfaceClass.bare : InterfaceClass → InterfaceClass
  | .defined k => .defined (ClassTable.bare k)
  | .url => .url

/-- No class is found for what every interface may have. -/
theorem lineage_eq (table : ClassTable) (c : DefinedClass) :
    table.lineage c = (c.ancestors.filter Ancestor.isOwn).filterMap fun a =>
      if a = .defined c.index then some c else table.definedOf? a := by
  rw [lineage, List.filterMap_filter]
  refine List.filterMap_congr fun a _ => ?_
  cases a <;> rfl

/-- Describing an interface does not look at the ancestors of its classes again. -/
theorem describe_eq_bare (table : ClassTable) (c : DefinedClass) :
    table.describe c = (do
      table.checkInterface c
      let classes := (table.interfaceClasses c).map InterfaceClass.bare
      let classHeaders ← classes.mapM InterfaceClass.headerList
      let declared ← classes.foldlM
        (addDeclarations c.definition.name classHeaders.flatten) .empty
      pure declared.values) := by
  have hheaders : InterfaceClass.headerList ∘ InterfaceClass.bare = InterfaceClass.headerList := by
    funext k
    cases k <;> rfl
  have hadd : ∀ headers, (fun declared k =>
      addDeclarations c.definition.name headers declared (InterfaceClass.bare k)) =
        addDeclarations c.definition.name headers := by
    intro headers
    funext declared k
    cases k <;> rfl
  simp only [describe, List.mapM_map, List.foldlM_map, hheaders, hadd]

section

variable (h : order.filter Ancestor.isOwn = c.ancestors.filter Ancestor.isOwn)
include h

theorem map_bare_lineage :
    (table.lineage { c with ancestors := order }).map bare = (table.lineage c).map bare := by
  rw [lineage_eq, lineage_eq, h, List.map_filterMap, List.map_filterMap]
  refine List.filterMap_congr fun a _ => ?_
  by_cases hself : a = .defined c.index
  · rw [if_pos hself, if_pos hself]
    rfl
  · rw [if_neg hself, if_neg hself]

theorem map_bare_interfaceClasses :
    (table.interfaceClasses { c with ancestors := order }).map InterfaceClass.bare =
      (table.interfaceClasses c).map InterfaceClass.bare := by
  rw [interfaceClasses_eq_visit, interfaceClasses_eq_visit, h, List.map_filterMap,
    List.map_filterMap]
  refine List.filterMap_congr fun a _ => ?_
  by_cases hself : a = .defined c.index
  · subst hself
    simp only [visit, if_true, reduceCtorEq, if_false, Option.filter_some]
    show Option.map _ (Option.map _ (if !c.isOfPackage hiddenPackage then _ else _)) = _
    cases c.isOfPackage hiddenPackage <;> rfl
  · simp only [visit, if_neg hself]

/-- An interface is described in the same way with its ancestors in another order that shows the
classes in the same way. -/
theorem describe_of_filter_eq :
    table.describe { c with ancestors := order } = table.describe c := by
  have htypes : DefinedClass.hasTypeParameters? ∘ bare = DefinedClass.hasTypeParameters? := rfl
  have hplain : table.isParameterized { c with ancestors := order } = table.isParameterized c := by
    rw [isParameterized, isParameterized, ← htypes, ← List.findSome?_map, ← List.findSome?_map,
      map_bare_lineage h]
  have hcheck : table.checkInterface { c with ancestors := order } = table.checkInterface c := by
    rw [checkInterface, checkInterface, hplain]
  rw [describe_eq_bare, describe_eq_bare, hcheck, map_bare_interfaceClasses h]

end

/-- An interface whose class has several parents is not described. Where none of its ancestors has
several, an interface that is described has its classes in a row, each with the one in front of it
as its only parent, and it would be described alike in every order of its ancestors in which classes
stand in front of their bases. -/
theorem line_of_describe (table : ClassTable) (c : DefinedClass) (hbuilt : Built table)
    (hget : table.get? c.index = some c) :
    (1 < c.parents.length →
      table.describe c = .error (.defect ⟨table.severalParents c, none⟩)) ∧
    ((∀ b, Relation.TransGen table.HasBase c b → b.parents.length ≤ 1) →
      ∀ declarations, table.describe c = .ok declarations →
        ∃ row, table.Line row c ∧
          table.interfaceClasses c = (walked row).map .defined ∧
          table.Linearizes c c.ancestors ∧
          ∀ order, table.Linearizes c order →
            table.describe { c with ancestors := order } = .ok declarations) := by
  refine ⟨describe_of_parents, fun honce declarations hdescribe => ?_⟩
  have hself : c.parents.length ≤ 1 := by
    by_contra hseveral
    exact nomatch hdescribe.symm.trans (describe_of_parents (Nat.lt_of_not_le hseveral))
  have hall : ∀ k, Relation.ReflTransGen table.HasBase c k → k.parents.length ≤ 1 := by
    intro k hk
    rcases Relation.reflTransGen_iff_eq_or_transGen.1 hk with rfl | hk
    · exact hself
    · exact honce k hk
  obtain ⟨row, hrow⟩ := exists_line hbuilt.sound hget (url_not_mem_of_describe hdescribe) hall
  refine ⟨row, hrow, hrow.interfaceClasses_eq hbuilt.sound,
    linearizes_ancestors hbuilt.sound hget, fun order horder => ?_⟩
  rw [describe_of_filter_eq (hrow.filter_of_linearizes hbuilt.sound horder), hdescribe]

/-! ### An ancestor with several parents -/

/-- A function that reads something. -/
def readFunction (name : String) : FunctionDef where
  name := name
  decorators := [.requestLine (.text ("GET /" ++ name))]
  parameters := [{ name := "self" }]

/-- A class with some bases, a header and a function. -/
def readerDef (name : String) (bases : List Base) (function : String) : ClassDef where
  name := name
  bases := bases
  decorators := [.headers [.text ("X-Reader: " ++ name)]]
  members := [(function, .function (readFunction function))]

/-- A class for users. -/
def users : DefinedClass := plainClass (readerDef "Users" [] "users") 0 [.object] [.object]

/-- A class for groups. -/
def groups : DefinedClass := plainClass (readerDef "Groups" [] "groups") 1 [.object] [.object]

/-- A class with both as its bases. -/
def both : DefinedClass :=
  plainClass (readerDef "Both" [.named "Users", .named "Groups"] "both") 2
    [.defined 0, .defined 1] [.defined 0, .defined 1, .object]

/-- A class that is derived from it. -/
def team : DefinedClass :=
  plainClass (readerDef "Team" [.named "Both"] "team") 3
    [.defined 2] [.defined 2, .defined 0, .defined 1, .object]

/-- The table of these classes. -/
def readers : ClassTable where
  package := "app"
  classes := [users, groups, both, team]

theorem built_readers : Built readers := by
  let tableOf (classes : List DefinedClass) : ClassTable := { package := "app", classes }
  have husers : define (tableOf []) users.definition = .ok (tableOf [users]) :=
    define_plainClass rfl rfl (by simp [users, plainClass, readerDef]) rfl rfl rfl
  have hgroups : define (tableOf [users]) groups.definition = .ok (tableOf [users, groups]) :=
    define_plainClass_of_merge [] [.object] rfl rfl rfl
      (by simp [groups, plainClass, readerDef]) rfl rfl (by decide +kernel) rfl rfl
  have hboth : define (tableOf [users, groups]) both.definition =
      .ok (tableOf [users, groups, both]) :=
    define_plainClass_of_merge [.defined 0, .defined 1] [.defined 0, .defined 1, .object]
      rfl rfl rfl (by simp [both, plainClass, readerDef]) rfl rfl (by decide +kernel) rfl rfl
  have hteam : define (tableOf [users, groups, both]) team.definition = .ok readers :=
    define_plainClass_of_merge [.defined 2] [.defined 2, .defined 0, .defined 1, .object]
      rfl rfl rfl (by simp [team, plainClass, readerDef]) rfl rfl (by decide +kernel) rfl rfl
  exact ((((Built.start "app").define husers).define hgroups).define hboth).define hteam

/-- The class with two parents is told, and the interface of cats has its classes in a row. -/
theorem line_of_describe_both :
    readers.describe both = .error (.defect ⟨.severalBases "Both", none⟩) ∧
      ∃ declarations row, zoo.describe cats = .ok declarations ∧ zoo.Line row cats ∧
        zoo.interfaceClasses cats = (walked row).map .defined ∧
        ∀ order, zoo.Linearizes cats order →
          zoo.describe { cats with ancestors := order } = .ok declarations := by
  constructor
  · exact (line_of_describe readers both built_readers rfl).1 (by decide)
  · have honce : ∀ b, Relation.TransGen zoo.HasBase cats b → b.parents.length ≤ 1 := by
      have hmem : ∀ a b, zoo.HasBase a b → b = pets ∨ b = cats := by
        intro a b hb
        simpa [zoo] using List.mem_of_getElem? hb.2
      intro b hb
      obtain ⟨a, -, hab⟩ := Relation.TransGen.tail'_iff.1 hb
      rcases hmem a b hab with rfl | rfl <;> decide
    obtain ⟨declarations, hdescribe⟩ : ∃ declarations, zoo.describe cats = .ok declarations :=
      ⟨_, rfl⟩
    obtain ⟨row, hrow, hclasses, -, horders⟩ :=
      (line_of_describe zoo cats built_zoo rfl).2 honce declarations hdescribe
    exact ⟨declarations, row, hdescribe, hrow, hclasses, horders⟩

/-- An interface is described although its base has two parents. It has the headers and functions of
both, and which come first depends on the order of the ancestors. -/
theorem team_is_described :
    Built readers ∧ readers.get? team.index = some team ∧ readers.HasBase team both ∧
      1 < both.parents.length ∧
      ∃ declarations declarations' order, readers.describe team = .ok declarations ∧
        declarations.map Declaration.methodName = ["groups", "users", "both", "team"] ∧
        declarations.map Declaration.classHeaders = List.replicate 4
          ["X-Reader: Groups", "X-Reader: Users", "X-Reader: Both", "X-Reader: Team"] ∧
        readers.Linearizes team order ∧
        readers.describe { team with ancestors := order } = .ok declarations' ∧
        declarations'.map Declaration.methodName = ["users", "groups", "both", "team"] := by
  have horder : readers.Linearizes team
      [.defined 3, .defined 2, .defined 1, .defined 0, .object] := by
    refine ⟨by decide, fun k _ hk => ?_⟩
    have hmem : k = users ∨ k = groups ∨ k = both ∨ k = team := by
      simpa [readers] using List.mem_of_getElem? hk
    rcases hmem with rfl | rfl | rfl | rfl <;> decide
  exact ⟨built_readers, rfl, ⟨by decide, rfl⟩, by decide, _, _, _, rfl, rfl, rfl, horder, rfl, rfl⟩

end ClassTable

end HttpInterface
