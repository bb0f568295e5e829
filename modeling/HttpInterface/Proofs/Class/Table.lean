import HttpInterface.Class.Table
import HttpInterface.Proofs.Class.Linearization
import HttpInterface.Proofs.List
import Mathlib.Data.List.ReduceOption

/-!
# `HttpInterface.Proofs.Class.Table`: the tables that come about

A table begins without classes, and it grows by definitions (`Built`). `adds_of_define` says once
what a definition adds to a table; all that is known of the classes of a table follows from it.

A definition changes no class that is there already, so what is known of a class when it is
defined is known of it for good. `Sound` is that knowledge: the number of a class is its place, its
bases stand in front of it, its ancestors are the ancestors of its bases in one order, and its
names stand for its members with places and marks added to them. Every table that comes about is
sound (`Built.sound`).
-/

set_option autoImplicit false

namespace HttpInterface

/-- The names of a class with places for some of them. -/
def Member.withPlaces (owner : String) (members : OrderedMap String Member) (own : List String) :
    OrderedMap String Member :=
  own.foldl (fun known name => known.insert name (.place owner name)) members

namespace ClassTable

variable {table table' : ClassTable} {d : ClassDef} {k : DefinedClass} {i j : Nat}

/-- What the names of a class stand for: its members, places for the names `own`, among which
is no member, and what the marks leave. -/
structure Named (k : DefinedClass) (own : List String) : Prop where
  free : ∀ name ∈ own, (namespaceOf k.definition.members).contains name = true →
    Layout.isAdmitted name = true
  marked : k.definition.decorators.reverse.foldlM mark
      (Member.withPlaces k.definition.name (namespaceOf k.definition.members) own) =
    .ok k.namespaceMap

/-- What a definition adds to a table. -/
structure Adds (table : ClassTable) (d : ClassDef) (k : DefinedClass) : Prop where
  definition : k.definition = d
  index : k.index = table.classes.length
  bases : ∀ j, .defined j ∈ k.bases → ∃ b ∈ table.classes, b.index = j
  ancestors : ∃ order, Linearization.Merges (k.bases.map table.ancestorsOf ++ [k.bases]) order ∧
    k.ancestors = .defined k.index :: order
  names : ∃ own, Named k own

/-- The table with one more class. -/
def add (table : ClassTable) (k : DefinedClass) : ClassTable :=
  { table with classes := table.classes ++ [k] }

/-! ### One definition -/

theorem mem_of_find? {name : String} (h : table.find? name = some k) : k ∈ table.classes := by
  have hdrop : k ∈ table.classes.drop table.forgotten :=
    List.mem_reverse.1 (List.mem_of_find?_eq_some h)
  exact List.mem_of_mem_drop hdrop

/-- A base that is a defined class is the class of a name. -/
theorem exists_of_resolveBase {hasProtocol : Bool} {bases : List Base} {base : Base}
    {resolved : List (Option Ancestor)}
    (h : table.resolveBase hasProtocol bases base = .ok resolved)
    (hj : some (.defined j) ∈ resolved) : ∃ b ∈ table.classes, b.index = j := by
  cases base with
  | object | protocol | url =>
    obtain rfl := Except.ok.inj h
    simp at hj
  | genericForm args =>
    obtain ⟨-, -, h⟩ := bind_eq_ok.1 h
    obtain rfl := Except.ok.inj h
    split at hj <;> simp at hj
  | protocolForm args =>
    obtain ⟨-, -, h⟩ := bind_eq_ok.1 h
    obtain rfl := Except.ok.inj h
    simp at hj
  | named name =>
    cases hfound : table.find? name with
    | none =>
      simp only [resolveBase, hfound] at h
      exact nomatch h
    | some c =>
      simp only [resolveBase, hfound] at h
      obtain rfl := Except.ok.inj h
      obtain rfl : j = c.index := by simpa using hj
      exact ⟨c, mem_of_find? hfound, rfl⟩
  | namedForm name args =>
    cases hfound : table.find? name with
    | none =>
      simp only [resolveBase, hfound] at h
      exact nomatch h
    | some c =>
      simp only [resolveBase, hfound] at h
      obtain ⟨c', hc', h⟩ := bind_eq_ok.1 h
      obtain rfl := Except.ok.inj hc'
      split at h
      · obtain ⟨-, -, h⟩ := bind_eq_ok.1 h
        obtain rfl := Except.ok.inj h
        simp at hj
      · obtain ⟨-, -, h⟩ := bind_eq_ok.1 h
        obtain rfl := Except.ok.inj h
        obtain rfl : j = c.index := by simpa using hj
        exact ⟨c, mem_of_find? hfound, rfl⟩

theorem exists_of_resolveBases {bases : List Base} {resolved : List Ancestor}
    (h : table.resolveBases bases = .ok resolved) (hj : .defined j ∈ resolved) :
    ∃ b ∈ table.classes, b.index = j := by
  rw [resolveBases] at h
  obtain ⟨found, hfound, h⟩ := bind_eq_ok.1 h
  have hresolved : resolved = found.flatten.reduceOption := by
    dsimp only at h
    split at h
    · exact nomatch h
    · exact (Except.ok.inj h).symm
  rw [hresolved, List.reduceOption_mem_iff, List.mem_flatten] at hj
  obtain ⟨part, hpart, hj⟩ := hj
  obtain ⟨base, -, hbase⟩ := exists_of_mapM_eq_ok hfound part hpart
  exact exists_of_resolveBase hbase hj

/-- No member has a name of its own place, unless it may. -/
theorem isAdmitted_of_ofMembers {index : Nat} {className : String} {first all layout : Layout}
    {given own : List String} {members : OrderedMap String Member}
    (h : Layout.ofMembers index className first all given members = .ok (layout, own)) :
    ∀ name ∈ own, members.contains name = true → Layout.isAdmitted name = true := by
  intro name hname hmember
  rw [Layout.ofMembers] at h
  split at h
  · obtain ⟨-, rfl⟩ := Prod.mk.inj (Except.ok.inj h)
    exact absurd hname List.not_mem_nil
  -- Where places are asked for, a member with one of their names is looked for.
  · obtain ⟨values, -, h⟩ := bind_eq_ok.1 h
    obtain ⟨names, -, h⟩ := bind_eq_ok.1 h
    dsimp only at h
    split at h
    · exact nomatch h
    · next hnone =>
      obtain ⟨-, rfl⟩ := Prod.mk.inj (Except.ok.inj h)
      have hfree := List.find?_eq_none.1 (Option.eq_none_iff_forall_ne_some.2 hnone) name hname
      simpa [hmember] using hfree

/-- Places are reserved for names among which is no member, unless it may be. -/
theorem members_of_reserve {bases : List Ancestor} {written members : OrderedMap String Member}
    {layout : Layout} (h : table.reserve d bases written = .ok (layout, members)) :
    ∃ own, (∀ name ∈ own, written.contains name = true → Layout.isAdmitted name = true) ∧
      members = Member.withPlaces d.name written own := by
  rw [reserve] at h
  obtain ⟨first, -, h⟩ := bind_eq_ok.1 h
  obtain ⟨⟨layout', own⟩, hown, h⟩ := bind_eq_ok.1 h
  obtain ⟨-, rfl⟩ := Prod.mk.inj (Except.ok.inj h)
  exact ⟨own, isAdmitted_of_ofMembers (mapError_eq_ok.1 hown), rfl⟩

theorem merges_of_linearize {bases order : List Ancestor} (h : table.linearize bases = .ok order) :
    Linearization.Merges (bases.map table.ancestorsOf ++ [bases]) order := by
  rw [linearize] at h
  split at h
  · next hmerge =>
    obtain rfl := Except.ok.inj h
    exact Linearization.merges_of_merge hmerge
  · exact nomatch h

/-- The bases of a class that names none of its own. -/
def basesOr (resolved : List Ancestor) : List Ancestor :=
  if resolved.isEmpty then [.object] else resolved

/-- A class that is put together from what the steps of its definition give. -/
def assemble (table : ClassTable) (d : ClassDef) (bases ancestors : List Ancestor)
    (typeParameters : Option (List String)) (layout : Layout)
    (names : OrderedMap String Member) : DefinedClass where
  definition := d
  index := table.classes.length
  bases := bases
  ancestors := .defined table.classes.length :: ancestors
  typeParameters := typeParameters
  namespaceMap := names
  layout := layout
  baseList := if d.bases.any Base.isForm then some (.tuple (d.bases.map table.baseType)) else none

/-- A definition succeeds if all its steps do. -/
theorem define_eq_ok : table.define d = .ok table' ↔
    ∃ resolved layout members ancestors typeParameters names,
      table.resolveBases d.bases = .ok resolved ∧
      table.reserve d (basesOr resolved) (namespaceOf d.members) = .ok (layout, members) ∧
      d.name.contains '\x00' = false ∧ checkMembers (namespaceOf d.members) = .ok () ∧
      firstRepeated? (basesOr resolved) = none ∧
      table.linearize (basesOr resolved) = .ok ancestors ∧
      table.tellAncestors d members (basesOr resolved) ancestors = .ok typeParameters ∧
      d.decorators.reverse.foldlM mark members = .ok names ∧
      table' = table.add
        (table.assemble d (basesOr resolved) ancestors typeParameters layout names) := by
  rw [define]
  constructor
  · intro h
    -- The steps are opened in their order; a check between two of them leaves its condition.
    obtain ⟨resolved, hresolved, h⟩ := bind_eq_ok.1 h
    obtain ⟨⟨layout, members⟩, hreserve, h⟩ := bind_eq_ok.1 h
    dsimp only at h hreserve
    split at h
    · exact nomatch h
    · next hnul =>
      obtain ⟨⟨⟩, hcheck, h⟩ := bind_eq_ok.1 h
      split at h
      · exact nomatch h
      · next hrepeated =>
        obtain ⟨ancestors, hlinearize, h⟩ := bind_eq_ok.1 h
        obtain ⟨typeParameters, htell, h⟩ := bind_eq_ok.1 h
        obtain ⟨names, hmarks, h⟩ := bind_eq_ok.1 h
        exact ⟨resolved, layout, members, ancestors, typeParameters, names, hresolved, hreserve,
          Bool.not_eq_true _ ▸ hnul, hcheck, Option.eq_none_iff_forall_ne_some.2 hrepeated,
          hlinearize, htell, mapError_eq_ok.1 hmarks, (Except.ok.inj h).symm⟩
  · rintro ⟨resolved, layout, members, ancestors, typeParameters, names, hresolved, hreserve, hnul,
      hcheck, hrepeated, hlinearize, htell, hmarks, rfl⟩
    refine bind_eq_ok.2 ⟨resolved, hresolved, bind_eq_ok.2 ⟨(layout, members), hreserve, ?_⟩⟩
    dsimp only
    rw [hnul, if_neg Bool.false_ne_true]
    refine bind_eq_ok.2 ⟨(), hcheck, ?_⟩
    rw [basesOr] at hrepeated
    rw [hrepeated]
    exact bind_eq_ok.2 ⟨ancestors, hlinearize, bind_eq_ok.2 ⟨typeParameters, htell,
      bind_eq_ok.2 ⟨names, mapError_eq_ok.2 hmarks, rfl⟩⟩⟩

/-- A definition that succeeds adds one class. -/
theorem adds_of_define (h : table.define d = .ok table') :
    ∃ k, table.Adds d k ∧ table' = table.add k := by
  obtain ⟨resolved, layout, members, ancestors, typeParameters, names, hresolved, hreserve, -, -, -,
    hlinearize, -, hmarks, rfl⟩ := define_eq_ok.1 h
  obtain ⟨own, hfree, rfl⟩ := members_of_reserve hreserve
  have hbases : ∀ j, .defined j ∈ basesOr resolved → ∃ b ∈ table.classes, b.index = j := by
    intro j hj
    rw [basesOr] at hj
    split at hj
    · simp at hj
    · exact exists_of_resolveBases hresolved hj
  exact ⟨_, ⟨rfl, rfl, hbases, ⟨ancestors, merges_of_linearize hlinearize, rfl⟩,
    own, hfree, hmarks⟩, rfl⟩

/-! ### Tables that come about -/

/-- The tables that come about by definitions, mentions and forgotten names. -/
inductive Built : ClassTable → Prop
  | start (package : String) : Built { package }
  | define {table table' : ClassTable} {d : ClassDef} : Built table →
      table.define d = .ok table' → Built table'
  | forgetting {table : ClassTable} : Built table → Built table.forgetting

/-- To mention a class is to find it, or to define it. -/
theorem Built.mention (hbuilt : Built table) {name : String} {isUrl : Bool}
    (h : table.mention name isUrl = .ok (table', k)) : Built table' := by
  rw [ClassTable.mention] at h
  split at h
  · obtain ⟨rfl, -⟩ := Prod.mk.inj (Except.ok.inj h)
    exact hbuilt
  · obtain ⟨defined, hdefined, h⟩ := bind_eq_ok.1 h
    split at h
    · obtain ⟨rfl, -⟩ := Prod.mk.inj (Except.ok.inj h)
      exact hbuilt.define hdefined
    · exact nomatch h

theorem built_of_ofList {package : String} {classes : List ClassDef}
    (h : ofList package classes = .ok table) : Built table :=
  foldlM_invariant (fun _ _ _ _ hbuilt hdefine => hbuilt.define hdefine) (.start package) h

/-- What is known of a class of a table. -/
structure Knows (table : ClassTable) (k : DefinedClass) : Prop where
  bases : ∀ j, .defined j ∈ k.bases → j < k.index
  ancestors : ∃ order, Linearization.Merges (k.bases.map table.ancestorsOf ++ [k.bases]) order ∧
    k.ancestors = .defined k.index :: order
  names : ∃ own, Named k own

/-- The number of a class is its place, and each class is known. -/
structure Sound (table : ClassTable) : Prop where
  index : ∀ i k, table.get? i = some k → k.index = i
  knows : ∀ i k, table.get? i = some k → table.Knows k

theorem get?_add (table : ClassTable) (k : DefinedClass) (i : Nat) :
    (table.add k).get? i = if i = table.classes.length then some k else table.get? i := by
  show (table.classes ++ [k])[i]? = if i = table.classes.length then some k else table.classes[i]?
  rw [List.getElem?_append]
  split
  · next hlt => rw [if_neg (Nat.ne_of_lt hlt)]
  · next hle =>
    split
    · next heq => simp [heq]
    · next hne =>
      have hbehind : 1 ≤ i - table.classes.length := by omega
      rw [List.getElem?_eq_none hbehind, List.getElem?_eq_none (by omega)]

theorem lt_of_get? (h : table.get? i = some k) : i < table.classes.length :=
  (List.getElem?_eq_some_iff.1 h).1

/-- One more class leaves the ancestors of the earlier ones as they are. -/
theorem ancestorsOf_add {a : Ancestor} (h : ∀ j, a = .defined j → j < table.classes.length) :
    (table.add k).ancestorsOf a = table.ancestorsOf a := by
  cases a with
  | defined j =>
    have hne : j ≠ table.classes.length := Nat.ne_of_lt (h j rfl)
    simp only [ancestorsOf, get?_add, if_neg hne]
  | _ => rfl

/-- What is known of a class whose bases are in the table stays known. -/
theorem Knows.add (h : table.Knows k) (hindex : k.index ≤ table.classes.length)
    (c : DefinedClass) : (table.add c).Knows k where
  bases := h.bases
  ancestors := by
    have hsame : k.bases.map (table.add c).ancestorsOf = k.bases.map table.ancestorsOf := by
      refine List.map_congr_left fun a ha => ancestorsOf_add ?_
      rintro j rfl
      exact Nat.lt_of_lt_of_le (h.bases j ha) hindex
    rw [hsame]
    exact h.ancestors
  names := h.names

namespace Sound

theorem index_lt (h : Sound table) (hk : k ∈ table.classes) : k.index < table.classes.length := by
  obtain ⟨i, hi⟩ := List.mem_iff_getElem?.1 hk
  rw [h.index i k hi]
  exact lt_of_get? hi

/-- One definition keeps what is known, and adds what is known of the new class. -/
theorem add (h : Sound table) (hk : table.Adds d k) : Sound (table.add k) where
  index i c hc := by
    rw [get?_add] at hc
    split at hc
    · next hi =>
      obtain rfl := Option.some.inj hc
      exact hk.index.trans hi.symm
    · exact h.index i c hc
  knows i c hc := by
    rw [get?_add] at hc
    split at hc
    · obtain rfl := Option.some.inj hc
      -- The new class only speaks of classes in front of it, so it is known without itself.
      have hknows : table.Knows k :=
        { bases := by
            intro j hj
            obtain ⟨b, hb, rfl⟩ := hk.bases j hj
            exact hk.index ▸ h.index_lt hb
          ancestors := hk.ancestors
          names := hk.names }
      exact hknows.add (Nat.le_of_eq hk.index) k
    · have hi : c.index ≤ table.classes.length := by
        rw [h.index i c hc]
        exact Nat.le_of_lt (lt_of_get? hc)
      exact (h.knows i c hc).add hi k

end Sound

/-- Every table that comes about is sound. -/
theorem Built.sound (h : Built table) : Sound table := by
  induction h with
  | start package => exact ⟨fun i k hk => by simp [get?] at hk, fun i k hk => by simp [get?] at hk⟩
  | define _ hdefine ih =>
    obtain ⟨k, hk, rfl⟩ := adds_of_define hdefine
    exact ih.add hk
  | @forgetting table _ ih =>
    have hknows : ∀ {k}, table.Knows k → table.forgetting.Knows k :=
      fun h => ⟨h.bases, h.ancestors, h.names⟩
    exact ⟨ih.index, fun i k hk => hknows (ih.knows i k hk)⟩

end ClassTable

end HttpInterface
