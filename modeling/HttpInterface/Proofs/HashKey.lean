import HttpInterface.Proofs.Compile.Method
import Mathlib.Data.List.Nodup
import Mathlib.Data.List.Perm.Subperm

/-!
# `HttpInterface.Proofs.HashKey`: which equal values have the same hash

Templates are compared without regard to the order of query keys and header names, and compiled
methods without regard to the order of bound positions. What a hash is taken of keeps these orders.
So equal values need not have the same hash: `hashes_differ` has two templates that builders make of
one query in two orders, and one method whose parameters are declared in two orders.

The order is all that there is between them. A hash of a template is taken of the whole template
(`Template.hashKey_inj`), and equal maps with the same order of keys are the same map
(`OrderedMap.eq_of_perm_of_keys`). `hashKey_eq_iff` is the result.
-/

set_option autoImplicit false

namespace HttpInterface

/-! ### Maps -/

namespace OrderedMap

variable {κ α : Type} [DecidableEq κ] {a b : OrderedMap κ α}

/-- Two maps have the same entries in any order if the entries of one are a permutation of those
of the other. -/
theorem equivBy_iff_perm [BEq α] [LawfulBEq α] :
    a.equivBy (· == ·) b = true ↔ a.entries.Perm b.entries := by
  have hentry : ∀ e : κ × α, (b.get? e.1).any (e.2 == ·) = true ↔ e ∈ b.entries := by
    intro e
    rw [Option.any_eq_true, ← get?_eq_some_iff]
    constructor
    · rintro ⟨v, hv, he⟩
      rw [hv, eq_of_beq he]
    · exact fun he => ⟨e.2, he, beq_self_eq_true e.2⟩
  have hnodup : a.entries.Nodup := List.Nodup.of_map Prod.fst a.nodup_keys
  simp only [equivBy, Bool.and_eq_true, beq_iff_eq, List.all_eq_true, hentry]
  constructor
  · rintro ⟨hlength, hsub⟩
    exact (hnodup.subperm hsub).perm_of_length_le (Nat.le_of_eq hlength.symm)
  · exact fun h => ⟨h.length_eq, fun e he => h.mem_iff.1 he⟩

/-- Maps with the same entries and the same order of keys are the same. -/
theorem eq_of_perm_of_keys (h : a.entries.Perm b.entries) (hkeys : a.keys = b.keys) : a = b := by
  have hget : a.get? = b.get? := by
    refine funext fun k => Option.ext fun v => ?_
    rw [get?_eq_some_iff, get?_eq_some_iff, h.mem_iff]
  -- The keys in their order, each with what is found for it, are the entries.
  have hfound : ∀ m : OrderedMap κ α,
      m.entries.map (fun e => (e.1, some e.2)) = m.keys.map fun k => (k, m.get? k) := by
    intro m
    rw [keys, List.map_map]
    refine List.map_congr_left fun e he => ?_
    rw [Function.comp_apply, get?_eq_some_iff.2 he]
  have hinj : Function.Injective fun e : κ × α => (e.1, some e.2) := by
    rintro ⟨k, v⟩ ⟨l, w⟩ heq
    simpa using heq
  refine OrderedMap.ext (hinj.list_map ?_)
  rw [hfound, hfound, hkeys, hget]

end OrderedMap

/-! ### Templates -/

namespace Template

variable {a b : Template}

/-- Templates with the same parts are the same. -/
theorem eq_of_parts (hmethod : a.method = b.method) (hurl : a.url = b.url)
    (hqueries : a.queries = b.queries) (hheaders : a.headers = b.headers) (hbody : a.body = b.body)
    (hbodyTemplate : a.bodyTemplate = b.bodyTemplate) : a = b := by
  obtain ⟨method, url, queries, headers, body, bodyTemplate⟩ := a
  cases hmethod
  cases hurl
  cases hqueries
  cases hheaders
  cases hbody
  cases hbodyTemplate
  rfl

/-- A hash of a template is taken of all its parts. -/
theorem hashKey_inj : a.hashKey = b.hashKey ↔ a = b := by
  constructor
  · intro h
    obtain ⟨hmethod, hurl, hqueries, hheaders, hbody, hbodyTemplate⟩ := HashKey.mk.inj h
    exact eq_of_parts hmethod hurl (OrderedMap.ext hqueries) (OrderedMap.ext hheaders) hbody
      hbodyTemplate
  · exact congrArg hashKey

/-- The query keys and the header names of two templates are in the same order. -/
def SameOrder (a b : Template) : Prop :=
  a.queries.keys = b.queries.keys ∧ a.headers.keys = b.headers.keys

/-- Equal templates with the same orders are the same template. -/
theorem eq_of_same (h : a.same b = true) (horder : a.SameOrder b) : a = b := by
  simp only [same, Bool.and_eq_true, beq_iff_eq, OrderedMap.equivBy_iff_perm] at h
  obtain ⟨⟨⟨⟨⟨hmethod, hurl⟩, hqueries⟩, hheaders⟩, hbody⟩, hbodyTemplate⟩ := h
  exact eq_of_parts hmethod hurl (OrderedMap.eq_of_perm_of_keys hqueries horder.1)
    (OrderedMap.eq_of_perm_of_keys hheaders horder.2) hbody hbodyTemplate

instance (a b : Template) : Decidable (a.SameOrder b) :=
  inferInstanceAs (Decidable (_ ∧ _))

theorem hashKey_eq_iff_sameOrder (h : a.same b = true) :
    a.hashKey = b.hashKey ↔ a.SameOrder b := by
  rw [hashKey_inj]
  constructor
  · rintro rfl
    exact ⟨rfl, rfl⟩
  · exact eq_of_same h

end Template

/-! ### Compiled methods -/

/-- A position below the prime that hashes are taken modulo is its own hash. -/
theorem Number.hashWhole_of_lt {i : Int} (h : 0 ≤ i ∧ i < hashPrime) : hashWhole i = i := by
  have habs : i.natAbs % hashPrime = i.natAbs := Nat.mod_eq_of_lt (by omega)
  rw [hashWhole, signedHash, habs]
  simp only [Int.not_lt.2 h.1, decide_false, Bool.false_eq_true, if_false]
  omega

namespace CompiledMethod

variable {a b : CompiledMethod}

/-- Query keys, header names and bound positions of two methods are in the same order. -/
def SameOrder (a b : CompiledMethod) : Prop :=
  a.template.SameOrder b.template ∧ a.indexToName.keys = b.indexToName.keys

instance (a b : CompiledMethod) : Decidable (a.SameOrder b) :=
  inferInstanceAs (Decidable (_ ∧ _))

/-- Equal methods with the same orders have the same hash; their types may differ. -/
theorem hashKey_eq_of_same (h : a.same b = true) (horder : a.SameOrder b) :
    a.hashKey = b.hashKey := by
  simp only [same, Bool.and_eq_true, beq_iff_eq, OrderedMap.equivBy_iff_perm] at h
  obtain ⟨⟨⟨⟨⟨⟨⟨hkey, htemplate⟩, hform⟩, hindex⟩, hbody⟩, -⟩, hurl⟩, -⟩ := h
  have hindex := OrderedMap.eq_of_perm_of_keys hindex horder.2
  have htemplate := Template.eq_of_same htemplate horder.1
  simp only [hashKey, hkey, htemplate, hform, hindex, hbody, hurl]

/-- What the hash of a method is taken of shows the orders, if the positions can be told from their
hashes. -/
theorem sameOrder_of_hashKey (h : a.same b = true)
    (hpositions : ∀ i ∈ a.indexToName.keys, 0 ≤ i ∧ i < Number.hashPrime)
    (hhash : a.hashKey = b.hashKey) : a.SameOrder b := by
  simp only [same, Bool.and_eq_true, OrderedMap.equivBy_iff_perm] at h
  obtain ⟨⟨⟨⟨⟨⟨⟨-, htemplate⟩, -⟩, hindex⟩, -⟩, -⟩, -⟩, -⟩ := h
  -- Such positions are their own hashes, so the hash is taken of the bound names as they are.
  have hself : ∀ m : CompiledMethod, (∀ i ∈ m.indexToName.keys, 0 ≤ i ∧ i < Number.hashPrime) →
      (m.indexToName.entries.map fun e => (Number.hashWhole e.1, e.2)) = m.indexToName.entries := by
    intro m hm
    refine (List.map_congr_left fun e he => ?_).trans (List.map_id _)
    rw [Number.hashWhole_of_lt (hm e.1 (List.mem_map_of_mem he))]
    rfl
  have hpositions' : ∀ i ∈ b.indexToName.keys, 0 ≤ i ∧ i < Number.hashPrime := fun i hi =>
    hpositions i ((hindex.map Prod.fst).mem_iff.2 hi)
  have hentries : (a.indexToName.entries.map fun e => (Number.hashWhole e.1, e.2)) =
      b.indexToName.entries.map fun e => (Number.hashWhole e.1, e.2) :=
    congrArg HashKey.indexToName hhash
  rw [hself a hpositions, hself b hpositions'] at hentries
  exact ⟨(Template.hashKey_eq_iff_sameOrder htemplate).1 (congrArg HashKey.template hhash),
    congrArg (List.map Prod.fst) hentries⟩

end CompiledMethod

/-- Equal templates, and equal compiled methods, have the same hash exactly if their keys are in the
same order. Only of positions below zero and of very large ones the hash may hide the order, since
it is taken of a remainder of them. -/
theorem hashKey_eq_iff (s t : Template) (a b : CompiledMethod) (hst : s.same t = true)
    (hab : a.same b = true) :
    (s.hashKey = t.hashKey ↔ s.SameOrder t) ∧ (a.SameOrder b → a.hashKey = b.hashKey) ∧
      ((∀ i ∈ a.indexToName.keys, 0 ≤ i ∧ i < Number.hashPrime) →
        a.hashKey = b.hashKey → a.SameOrder b) :=
  ⟨Template.hashKey_eq_iff_sameOrder hst, CompiledMethod.hashKey_eq_of_same hab,
    CompiledMethod.sameOrder_of_hashKey hab⟩

/-- The template of a search with some query entries. -/
def searchTemplate (queries : List (String × List (Option String))) : Template :=
  { method := "GET", url := "/", queries := .ofList queries }

/-- Two orders of a query make two hashes; two orders of a choice of types, of which no hash is
taken, make one. -/
theorem hashKey_eq_iff_search :
    (searchTemplate [("a", [some "1"]), ("b", [some "2"])]).hashKey ≠
        (searchTemplate [("b", [some "2"]), ("a", [some "1"])]).hashKey ∧
      { Declaration.sampleMethod with returnType := .union [.noneType, .any] }.hashKey =
        { Declaration.sampleMethod with returnType := .union [.any, .noneType] }.hashKey := by
  obtain ⟨htemplate, hmethod, -⟩ := hashKey_eq_iff
    (searchTemplate [("a", [some "1"]), ("b", [some "2"])])
    (searchTemplate [("b", [some "2"]), ("a", [some "1"])])
    { Declaration.sampleMethod with returnType := .union [.noneType, .any] }
    { Declaration.sampleMethod with returnType := .union [.any, .noneType] }
    (by decide) (by decide +kernel)
  exact ⟨mt htemplate.1 (by decide), hmethod (by decide)⟩

/-- A declaration that is given two parameters. -/
def pairDeclaration (parameters : List Parameter) : Declaration :=
  { declaringType := "Grid", methodName := "cell", requestLine := some "GET /{row}/{column}",
    parameters }

/-- Equal templates of builders, and equal methods of declarations, that have different hashes: the
entries of the query, and the parameters, come in two orders. -/
theorem hashes_differ :
    (∃ b b' t t' c c',
      (Builder.start "utf-8").run [.setMethod "GET", .append "/?a=1&b=2"] = .ok b ∧
      b.build = .ok (t, c) ∧
      (Builder.start "utf-8").run [.setMethod "GET", .append "/?b=2&a=1"] = .ok b' ∧
      b'.build = .ok (t', c') ∧
      t.same t' = true ∧ t.hashKey ≠ t'.hashKey) ∧
    ∃ m m',
      ((pairDeclaration
        [{ index := 0, name := "row", primaryName := some "row" },
         { index := 1, name := "column", primaryName := some "column" }]).compile {}
          (.standard true)).result = .ok m ∧
      ((pairDeclaration
        [{ index := 1, name := "column", primaryName := some "column" },
         { index := 0, name := "row", primaryName := some "row" }]).compile {}
          (.standard true)).result = .ok m' ∧
      m.same m' = true ∧ m.hashKey ≠ m'.hashKey := by
  constructor
  · exact ⟨_, _, _, _, _, _, rfl, rfl, rfl, rfl, by decide, by decide⟩
  · exact ⟨_, _, rfl, rfl, by decide +kernel, by decide⟩

end HttpInterface
