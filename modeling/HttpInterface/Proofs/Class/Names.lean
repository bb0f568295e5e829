import HttpInterface.Class.Describe
import HttpInterface.Proofs.Class.Table
import HttpInterface.Proofs.OrderedMap.Grouping
import HttpInterface.Proofs.Record

/-!
# `HttpInterface.Proofs.Class.Names`: what the names of a class stand for in the end

The names of a class stand for its members; then places are added, and then what the marks leave.
Neither changes the public functions (`publicFunctions_eq`): a place is reserved for a name that
has no member, or for one that is not public, and the name of the record of the marks is not public
either.

Marks are put on a class from the bottom one up, each time into the record that is there. If the
class does not write this record itself (`LeavesRecord`), the marks build what they leave on a
function (`foldlM_mark`), and the headers in it are those of all marks, the top one first
(`headerList_eq`).
-/

set_option autoImplicit false

namespace HttpInterface

/-- The headers that a mark states. -/
def Decorator.headerValues : Decorator → List Value
  | .headers vs => vs
  | _ => []

/-! ### The record of the marks -/

namespace Marks

variable {m : Marks} {d : Decorator}

theorem headerList_add (m : Marks) (d : Decorator) :
    (m.add d).headerList = d.headerValues ++ m.headerList := by
  cases d with
  | requestLine v | body v =>
    rw [headerList, add, OrderedMap.get?_insert, if_neg (by decide)]
    rfl
  | headers vs =>
    rw [headerList, add, OrderedMap.get?_insert, if_pos rfl]
    rfl

/-- The headers that marks leave are those of each mark, the top one first. -/
theorem headerList_ofDecorators (ds : List Decorator) :
    (ofDecorators ds).headerList = ds.flatMap Decorator.headerValues := by
  induction ds with
  | nil => rfl
  | cons d ds ih =>
    rw [ofDecorators, List.foldr_cons, headerList_add, List.flatMap_cons, ← ih]
    rfl

/-- Headers stand in a tuple. -/
def HasTuple (m : Marks) : Prop :=
  ∀ v, m.get? headersName = some v → ∃ vs, v = .tuple vs

theorem HasTuple.add (h : HasTuple m) (d : Decorator) : HasTuple (m.add d) := by
  cases d with
  | requestLine v | body v =>
    intro w hw
    rw [Marks.add, OrderedMap.get?_insert, if_neg (by decide)] at hw
    exact h w hw
  | headers vs =>
    intro w hw
    rw [Marks.add, OrderedMap.get?_insert, if_pos rfl] at hw
    exact ⟨_, (Option.some.inj hw).symm⟩

theorem hasTuple_ofDecorators (ds : List Decorator) : HasTuple (ofDecorators ds) := by
  induction ds with
  | nil => exact fun v hv => nomatch hv
  | cons d ds ih => exact ih.add d

/-- The entries of the record as values. -/
def valueEntries (m : Marks) : List (Value × Value) :=
  m.entries.map fun e => (.text e.1, e.2)

/-- In the record as a value, keys are set and found as in the record. -/
theorem setKey_valueEntries (m : Marks) (name : String) (v : Value) :
    Value.setKey (.text name) v m.valueEntries = valueEntries (m.insert name v) := by
  rw [valueEntries, valueEntries, OrderedMap.entries_insert]
  generalize m.entries = entries
  induction entries with
  | nil => rfl
  | cons e rest ih =>
    simp only [List.map_cons, Value.setKey, OrderedMap.setEntry, Value.sameKey_text, beq_iff_eq]
    split
    · next heq => rw [List.map_cons, heq]
    · rw [List.map_cons, ih]

theorem find?_valueEntries (m : Marks) (name : String) :
    (m.valueEntries.find? fun e => e.1.sameKey (.text name)).map Prod.snd = m.get? name := by
  rw [valueEntries, Value.find?_sameKey fun v => v, Option.map_id']

/-- The headers among the entries of the record are those that the marks left. -/
theorem headersAmong_valueEntries (h : HasTuple m) :
    Member.headersAmong m.valueEntries = .ok m.headerList := by
  rw [Member.headersAmong, find?_valueEntries, headerList]
  cases hget : m.get? headersName with
  | none => rfl
  | some v =>
    obtain ⟨vs, rfl⟩ := h v hget
    rfl

end Marks

namespace ClassTable

variable {members : OrderedMap String Member} {k : DefinedClass} {own : List String}

/-- One more mark on a record that marks built. -/
theorem mark_of_record {m : Marks} (hrecord : members.get? marksName = some (.value m.toValue))
    (htuple : m.HasTuple) (d : Decorator) :
    mark members d = .ok (members.insert marksName (.value (m.add d).toValue)) := by
  have hentries : m.toValue = .dict m.valueEntries := rfl
  have hset : ∀ name v, (Value.dict (Value.setKey (.text name) v m.valueEntries)) =
      Marks.toValue (m.insert name v) := fun name v => by rw [Marks.setKey_valueEntries]; rfl
  rw [hentries] at hrecord
  cases d with
  | requestLine v | body v =>
    simp only [mark, hrecord, hset]
    rfl
  | headers vs =>
    simp only [mark, hrecord, Marks.headersAmong_valueEntries htuple, hset]
    rfl

/-- The first mark makes the record. -/
theorem mark_of_no_record (h : members.get? marksName = none) (d : Decorator) :
    mark members d =
      .ok (members.insert marksName (.value (Marks.ofDecorators [d]).toValue)) := by
  simp only [mark, h]
  rfl

/-- Marks on a class that has no record build what they leave on a function. -/
theorem foldlM_mark (h : members.get? marksName = none) (ds : List Decorator) :
    ds.reverse.foldlM mark members = .ok (if ds.isEmpty then members
      else members.insert marksName (.value (Marks.ofDecorators ds).toValue)) := by
  induction ds with
  | nil => rfl
  | cons d ds ih =>
    rw [List.reverse_cons, List.foldlM_append, ih]
    show mark _ d >>= pure = _
    rw [bind_pure]
    cases ds with
    | nil => exact mark_of_no_record h d
    | cons d' ds =>
      have hrecord : (members.insert marksName
          (.value (Marks.ofDecorators (d' :: ds)).toValue)).get? marksName =
            some (.value (Marks.ofDecorators (d' :: ds)).toValue) := by
        rw [OrderedMap.get?_insert, if_pos rfl]
      have hmark := mark_of_record hrecord (Marks.hasTuple_ofDecorators _) d
      rw [OrderedMap.insert_insert] at hmark
      exact hmark

end ClassTable

/-! ### Places -/

theorem Member.get?_withPlaces (owner : String) (members : OrderedMap String Member)
    (own : List String) (name : String) :
    (Member.withPlaces owner members own).get? name =
      if name ∈ own then some (.place owner name) else members.get? name := by
  induction own generalizing members with
  | nil => simp [Member.withPlaces]
  | cons first own ih =>
    show (Member.withPlaces owner (members.insert first (.place owner first)) own).get? name = _
    rw [ih, OrderedMap.get?_insert]
    by_cases hown : name ∈ own
    · simp [hown]
    · by_cases hfirst : name = first
      · simp [hfirst]
      · simp [hown, hfirst]

/-- The public function that an entry of a class makes, with its name there. -/
def Member.publicFunction? (e : String × Member) : Option (String × FunctionDef) :=
  match e.2 with
  | .function f => if e.1.toList.head? = some '_' then none else some (e.1, f)
  | _ => none

namespace Member

theorem publicFunction?_eq_none {name : String} (h : name.toList.head? = some '_') (m : Member) :
    publicFunction? (name, m) = none := by
  cases m with
  | function f => exact if_pos h
  | _ => rfl

theorem publicFunction?_eq_some {e : String × Member} {entry : String × FunctionDef}
    (h : publicFunction? e = some entry) : entry.1 = e.1 ∧ e.2 = .function entry.2 := by
  obtain ⟨name, m⟩ := e
  cases m with
  | function f =>
    simp only [publicFunction?] at h
    split at h
    · exact nomatch h
    · obtain rfl := Option.some.inj h
      exact ⟨rfl, rfl⟩
  | _ => exact nomatch h

/-- Places for names that have no public function change no public function. -/
theorem filterMap_withPlaces {owner : String} {members : OrderedMap String Member}
    {own : List String}
    (h : ∀ name ∈ own, ∀ m, members.get? name = some m → publicFunction? (name, m) = none) :
    (withPlaces owner members own).entries.filterMap publicFunction? =
      members.entries.filterMap publicFunction? := by
  induction own generalizing members with
  | nil => rfl
  | cons first own ih =>
    show (withPlaces owner (members.insert first (.place owner first)) own).entries.filterMap _ = _
    have hplace : publicFunction? (first, .place owner first) = none := rfl
    rw [← OrderedMap.filterMap_entries_insert hplace (h first List.mem_cons_self)]
    refine ih fun name hname m hm => ?_
    rw [OrderedMap.get?_insert] at hm
    split at hm
    · obtain rfl := Option.some.inj hm
      rfl
    · exact h name (List.mem_cons_of_mem first hname) m hm

end Member

/-- The public functions that a class writes, by their names there. What it writes under one name
twice is what it writes last, in the place of the first. -/
def ClassDef.publicFunctions (d : ClassDef) : List (String × FunctionDef) :=
  (ClassTable.namespaceOf d.members).entries.filterMap Member.publicFunction?

/-- No public function has the name of another one. -/
theorem ClassDef.nodup_publicFunctions (d : ClassDef) :
    (d.publicFunctions.map Prod.fst).Nodup := by
  -- The names are some of the keys, in their order.
  have key : ∀ entries : List (String × Member),
      ((entries.filterMap Member.publicFunction?).map Prod.fst).Sublist
        (entries.map Prod.fst) := by
    intro entries
    induction entries with
    | nil => exact List.Sublist.refl _
    | cons e rest ih =>
      cases hentry : Member.publicFunction? e with
      | none =>
        rw [List.filterMap_cons_none hentry]
        exact ih.cons e.1
      | some entry =>
        rw [List.filterMap_cons_some hentry, List.map_cons, List.map_cons,
          (Member.publicFunction?_eq_some hentry).1]
        exact ih.cons_cons e.1
  exact (ClassTable.namespaceOf d.members).nodup_keys.sublist (key _)

namespace DefinedClass

/-- A class does not write the record of its marks itself: it has no member of this name, and
reserves no place for it. -/
structure LeavesRecord (k : DefinedClass) : Prop where
  member : (ClassTable.namespaceOf k.definition.members).get? marksName = none
  place : ∀ owner name, k.namespaceMap.get? marksName ≠ some (.place owner name)

end DefinedClass

namespace ClassTable

theorem mark_place {members : OrderedMap String Member} {owner name : String}
    (h : members.get? marksName = some (.place owner name)) (d : Decorator) :
    ∃ e, mark members d = .error e := by
  cases d <;> simp only [mark, h] <;> exact ⟨_, rfl⟩

namespace Named

variable {k : DefinedClass} {own : List String}

/-- A place for the record would stay there, or take no mark. -/
theorem not_mem_own (h : Named k own) (hleaves : k.LeavesRecord) : marksName ∉ own := by
  intro hown
  have hplace := Member.get?_withPlaces k.definition.name (namespaceOf k.definition.members) own
    marksName
  rw [if_pos hown] at hplace
  have hmarked := h.marked
  cases hreverse : k.definition.decorators.reverse with
  | nil =>
    rw [hreverse] at hmarked
    rw [Except.ok.inj hmarked] at hplace
    exact hleaves.place _ _ hplace
  | cons d ds =>
    obtain ⟨e, he⟩ := mark_place hplace d
    rw [hreverse, List.foldlM_cons, he] at hmarked
    exact nomatch hmarked

/-- The names of a class stand for what it writes, with places added, and for the record of its
marks if there are any. -/
theorem namespaceMap_eq (h : Named k own) (hleaves : k.LeavesRecord) :
    k.namespaceMap =
      let placed := Member.withPlaces k.definition.name (namespaceOf k.definition.members) own
      if k.definition.decorators.isEmpty then placed
      else placed.insert marksName
        (.value (Marks.ofDecorators k.definition.decorators).toValue) := by
  have hfree : (Member.withPlaces k.definition.name (namespaceOf k.definition.members) own).get?
      marksName = none := by
    rw [Member.get?_withPlaces, if_neg (h.not_mem_own hleaves), hleaves.member]
  have hmarked := h.marked
  rw [foldlM_mark hfree] at hmarked
  exact (Except.ok.inj hmarked).symm

/-- The headers of a class are those of all its marks, the top one first. -/
theorem headerList_eq (h : Named k own) (hleaves : k.LeavesRecord) :
    k.headerList = .ok (k.definition.decorators.flatMap Decorator.headerValues) := by
  rw [DefinedClass.headerList, h.namespaceMap_eq hleaves]
  cases hds : k.definition.decorators with
  -- Without marks there is no record at all, which counts as no headers.
  | nil =>
    rw [List.isEmpty_nil, if_pos rfl, Member.get?_withPlaces, if_neg (h.not_mem_own hleaves),
      hleaves.member]
    rfl
  | cons d ds =>
    rw [List.isEmpty_cons, if_neg Bool.false_ne_true, OrderedMap.get?_insert, if_pos rfl,
      ← Marks.headerList_ofDecorators]
    exact Marks.headersAmong_valueEntries (Marks.hasTuple_ofDecorators (d :: ds))

/-- The public functions of a class are those that it writes. -/
theorem publicFunctions_eq (h : Named k own) (hleaves : k.LeavesRecord) :
    k.publicFunctions = k.definition.publicFunctions := by
  have hplaces : (Member.withPlaces k.definition.name (namespaceOf k.definition.members)
      own).entries.filterMap Member.publicFunction? = k.definition.publicFunctions := by
    refine Member.filterMap_withPlaces fun name hname m hm => ?_
    have hmember : (namespaceOf k.definition.members).contains name = true :=
      OrderedMap.contains_iff.2 (List.mem_map_of_mem (OrderedMap.get?_eq_some_iff.1 hm))
    -- A member may have a place of its name only where the name is not public.
    refine Member.publicFunction?_eq_none ?_ m
    have hadmitted := h.free name hname hmember
    simp only [Layout.isAdmitted, Bool.or_eq_true, decide_eq_true_eq] at hadmitted
    rcases hadmitted with rfl | rfl <;> rfl
  show k.namespaceMap.entries.filterMap Member.publicFunction? = _
  rw [h.namespaceMap_eq hleaves, ← hplaces]
  dsimp only
  split
  · rfl
  · exact OrderedMap.filterMap_entries_insert (Member.publicFunction?_eq_none rfl _)
      fun m _ => Member.publicFunction?_eq_none rfl m

end Named

end ClassTable

end HttpInterface
