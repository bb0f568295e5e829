import HttpInterface.Class.Describe
import HttpInterface.Proofs.Class.Table

/-!
# `HttpInterface.Proofs.Class.Hierarchy`: classes of which each has one base

Where every class has one parent at most, the classes of an interface stand in a row (`Line`), the
most basic one first. A parent is a base that not every interface may have: any class of the row
may name `object`, `Protocol` and `Generic` among its bases as well.

The order of all ancestors then holds the row from its end to its start, and nothing else but
what every interface may have (`Line.filter_ancestors`). This is what an interface walks through
(`Line.interfaceClasses_eq`): the row from its start, without the classes that say that they
belong to the hidden package.

In a `Chain` no class but the first names `Generic`. So none has several bases in the sense of the
check that an interface has to pass (`Chain.checkInterface_eq`).
-/

set_option autoImplicit false

namespace HttpInterface

/-- An ancestor that not every interface may have. -/
def Ancestor.isOwn : Ancestor → Bool
  | .defined _ | .url => true
  | _ => false

/-- The bases of a class without those that any interface may name. -/
def DefinedClass.ownBases (c : DefinedClass) : List Ancestor :=
  c.bases.filter fun b => b ≠ .object ∧ b ≠ .protocol

/-- The bases of a class that not every interface may have. -/
def DefinedClass.parents (c : DefinedClass) : List Ancestor :=
  c.bases.filter Ancestor.isOwn

namespace ClassTable

variable {table : ClassTable} {chain row : List DefinedClass} {c k : DefinedClass}

/-- The row of classes from the most basic one up to `c`, where each but the first has the one in
front of it as its only parent. -/
inductive Line (table : ClassTable) : List DefinedClass → DefinedClass → Prop
  | root {c : DefinedClass} : table.get? c.index = some c → c.parents = [] → Line table [c] c
  | derived {row : List DefinedClass} {b c : DefinedClass} : Line table row b →
      table.get? c.index = some c → c.parents = [.defined b.index] → Line table (row ++ [c]) c

/-- The row of classes from the most basic one up to `c`, where each but the first has the one in
front of it as its only base of its own. -/
inductive Chain (table : ClassTable) : List DefinedClass → DefinedClass → Prop
  | root {c : DefinedClass} : table.get? c.index = some c →
      c.ownBases = [] ∨ c.ownBases = [.generic] → Chain table [c] c
  | derived {chain : List DefinedClass} {b c : DefinedClass} : Chain table chain b →
      table.get? c.index = some c → c.ownBases = [.defined b.index] → Chain table (chain ++ [c]) c

theorem mem_bases_of_parents {b : Ancestor} (h : c.parents = [b]) : b ∈ c.bases :=
  (List.mem_filter.1 (h ▸ List.mem_singleton_self b)).1

/-- The parents of a class are found among its own bases. -/
theorem filter_ownBases (c : DefinedClass) : c.ownBases.filter Ancestor.isOwn = c.parents := by
  rw [DefinedClass.ownBases, DefinedClass.parents, List.filter_filter]
  refine List.filter_congr fun b _ => ?_
  cases b <;> rfl

theorem Chain.line (h : Chain table chain c) : Line table chain c := by
  induction h with
  | root hget hbases =>
    refine .root hget ?_
    rw [← filter_ownBases]
    rcases hbases with hbases | hbases <;> rw [hbases] <;> rfl
  | derived _ hget hbases ih =>
    refine .derived ih hget ?_
    rw [← filter_ownBases, hbases]
    rfl

/-! ### The order of all ancestors -/

theorem not_isOwn_of_mem_ancestorsOf {a b : Ancestor} (hb : b.isOwn = false)
    (ha : a ∈ table.ancestorsOf b) : a.isOwn = false := by
  cases b with
  | defined | url => exact nomatch hb
  | object | protocol | generic =>
    simp only [ancestorsOf, List.mem_cons, List.not_mem_nil, or_false] at ha
    rcases ha with rfl | rfl | rfl <;> rfl

section

variable {bases order : List Ancestor}

/-- Bases that any interface may have bring no other ancestors. -/
theorem filter_order_eq_nil
    (h : Linearization.Merges (bases.map table.ancestorsOf ++ [bases]) order)
    (hplain : ∀ b ∈ bases, b.isOwn = false) : order.filter Ancestor.isOwn = [] := by
  refine List.filter_eq_nil_iff.2 fun a ha => ?_
  obtain ⟨l, hl, hal⟩ := h.exists_mem a ha
  rw [Bool.not_eq_true]
  rcases List.mem_append.1 hl with hl | hl
  · obtain ⟨b, hb, rfl⟩ := List.mem_map.1 hl
    exact not_isOwn_of_mem_ancestorsOf (hplain b hb) hal
  · obtain rfl := List.mem_singleton.1 hl
    exact hplain a hal

/-- Where only one base is more than that, its ancestors decide. -/
theorem filter_order_eq {b : Ancestor}
    (h : Linearization.Merges (bases.map table.ancestorsOf ++ [bases]) order) (hb : b ∈ bases)
    (hself : b ∈ table.ancestorsOf b) (honly : ∀ a ∈ bases, a.isOwn = true → a = b) :
    order.filter Ancestor.isOwn = (table.ancestorsOf b).filter Ancestor.isOwn := by
  refine h.filter_eq (List.mem_append_left _ (List.mem_map_of_mem hb)) fun l hl a hal howned => ?_
  rcases List.mem_append.1 hl with hl | hl
  · obtain ⟨other, hother, rfl⟩ := List.mem_map.1 hl
    cases hkind : other.isOwn with
    | false => exact nomatch (not_isOwn_of_mem_ancestorsOf hkind hal).symm.trans howned
    | true => exact honly other hother hkind ▸ hal
  · obtain rfl := List.mem_singleton.1 hl
    exact honly a hal howned ▸ hself

end

/-! ### The walk -/

/-- What the walk of an interface makes of an ancestor. -/
def visit (table : ClassTable) (c : DefinedClass) (a : Ancestor) : Option InterfaceClass :=
  if a = .url then some .url
  else ((if a = .defined c.index then some c else table.definedOf? a).filter fun k =>
    !k.isOfPackage hiddenPackage).map .defined

/-- The walk finds no class in what every interface may have. -/
theorem interfaceClasses_eq_visit (table : ClassTable) (c : DefinedClass) :
    table.interfaceClasses c =
      (c.ancestors.filter Ancestor.isOwn).reverse.filterMap (table.visit c) := by
  have hskip : ∀ a, table.visit c a = if a.isOwn then table.visit c a else none := by
    intro a
    cases a <;> rfl
  show c.ancestors.reverse.filterMap (table.visit c) = _
  rw [← List.filter_reverse, List.filterMap_filter, ← funext hskip]

/-! ### Rows -/

namespace Line

theorem get?_eq (h : Line table row c) : table.get? c.index = some c := by
  cases h with
  | root hget => exact hget
  | derived _ hget => exact hget

/-- Every class of the row is found in the table. -/
theorem get?_of_mem (h : Line table row c) : ∀ k ∈ row, table.get? k.index = some k := by
  induction h with
  | root hget => simpa using hget
  | derived _ hget _ ih =>
    intro k hk
    rcases List.mem_append.1 hk with hk | hk
    · exact ih k hk
    · obtain rfl := List.mem_singleton.1 hk
      exact hget

/-- The ancestors of a class are its row from its end to its start, besides those that any
interface may have. -/
theorem filter_ancestors (hsound : Sound table) (h : Line table row c) :
    c.ancestors.filter Ancestor.isOwn = (row.map fun k => .defined k.index).reverse := by
  induction h with
  | @root c hget hparents =>
    obtain ⟨order, hmerges, hancestors⟩ := (hsound.knows _ _ hget).ancestors
    have hplain : ∀ b ∈ c.bases, b.isOwn = false := fun b hb =>
      Bool.eq_false_iff.2 (List.filter_eq_nil_iff.1 hparents b hb)
    rw [hancestors, List.filter_cons_of_pos rfl, filter_order_eq_nil hmerges hplain]
    rfl
  -- The class itself stands in front of what its one parent has.
  | @derived row b c hb hget hparents ih =>
    obtain ⟨order, hmerges, hancestors⟩ := (hsound.knows _ _ hget).ancestors
    obtain ⟨_, -, hbancestors⟩ := (hsound.knows _ _ hb.get?_eq).ancestors
    have hof : table.ancestorsOf (.defined b.index) = b.ancestors := by
      rw [ancestorsOf, hb.get?_eq]
      rfl
    have hbase : .defined b.index ∈ c.bases := mem_bases_of_parents hparents
    have hself : .defined b.index ∈ table.ancestorsOf (.defined b.index) := by
      rw [hof, hbancestors]
      exact List.mem_cons_self
    have honly : ∀ a ∈ c.bases, a.isOwn = true → a = .defined b.index := by
      intro a ha howned
      exact List.mem_singleton.1 (hparents ▸ List.mem_filter.2 ⟨ha, howned⟩)
    rw [hancestors, List.filter_cons_of_pos rfl, filter_order_eq hmerges hbase hself honly, hof, ih,
      List.map_append, List.reverse_append]
    rfl

/-- An interface walks through its row from the start, without the classes of the hidden
package. -/
theorem interfaceClasses_eq (hsound : Sound table) (h : Line table row c) :
    table.interfaceClasses c =
      (row.filter fun k => !k.isOfPackage hiddenPackage).map .defined := by
  have hvisit : ∀ k ∈ row, table.visit c (.defined k.index) =
      if !k.isOfPackage hiddenPackage then some (.defined k) else none := by
    intro k hk
    have hfound : (if Ancestor.defined k.index = .defined c.index then some c
        else table.definedOf? (.defined k.index)) = some k := by
      split
      · next heq =>
        rw [← h.get?_eq, ← Ancestor.defined.inj heq]
        exact h.get?_of_mem k hk
      · exact h.get?_of_mem k hk
    simp only [visit, hfound, Option.filter_some]
    cases k.isOfPackage hiddenPackage <;> rfl
  rw [interfaceClasses_eq_visit, filter_ancestors hsound h, List.reverse_reverse,
    List.filterMap_map, ← List.filterMap_eq_map, List.filterMap_filter]
  exact List.filterMap_congr hvisit

end Line

namespace Chain

/-- No class of a row has several bases. -/
theorem checkInterface_eq (h : Chain table chain c) (hplain : table.isParameterized c = false) :
    table.checkInterface c = .ok () := by
  have hlength : ¬1 < c.ownBases.length := by
    cases h with
    | root _ hbases => rcases hbases with hbases | hbases <;> simp [hbases]
    | derived _ _ hbases => simp [hbases]
  have hown : (c.bases.filter fun b => b ≠ .object ∧ b ≠ .protocol) = c.ownBases := rfl
  simp only [checkInterface, hplain, hown, if_neg hlength]
  rfl

end Chain

end ClassTable

end HttpInterface
