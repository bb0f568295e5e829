import HttpInterface.Proofs.Expansion.Alike
import HttpInterface.Proofs.Expansion.Optional

/-!
# `HttpInterface.Proofs.Expansion.Outcome`: when a template is expanded, and from what

A template checks its arguments before it uses them, and the check and the use go through the
template in different ways. `outcome_of_expand` says that they fit, whatever the template and the
arguments (`Outcome`): a template is refused because of the names that it tells, and if it is not
refused every look-up succeeds, none is written nowhere, and an argument that no placeholder names
changes nothing.

A template that is not refused may still give no request: `returns_iff` says that then the text of
its body has no bytes. That is not a matter of the arguments alone. In `coding_error_of_writes` the
charset can write each argument, but it lacks a literal of the body template, or the mark that
an escape becomes which an argument has completed.
-/

set_option autoImplicit false

namespace HttpInterface

namespace Template

/-- The text that the body template is decoded to, if there is one, has bytes in the charset. -/
def BodyWrites (t : Template) (args : Arguments) (charset : String) : Prop :=
  ∀ text, t.bodyTemplate = some text →
    ∃ decoded, bodyText args charset text = .ok decoded ∧ Charset.Writes charset decoded.toList

/-- The template without the query and header values that mention a name bound to none. -/
def withoutNone (t : Template) (args : Arguments) : Template :=
  t.keep fun text => !(Placeholder.occurrences text).any args.isNone

/-- What becomes of a template and some arguments. -/
structure Outcome (t : Template) (args : Arguments) (charset : String) : Prop where
  /-- The template is refused exactly if a placeholder has no argument, or one of the url, a query
  key or the body template is none. -/
  refused_iff : (∃ names, t.expand args charset = .error (.missingValues names)) ↔
    (∃ name ∈ t.placeholders, name ∉ args.keys) ∨
      ∃ text ∈ t.url :: t.queries.keys ++ t.bodyTemplate.toList,
        ∃ name ∈ Placeholder.occurrences text, args.get? name = some .null
  /-- It tells the names without an argument in the order of the template, then those that are
  none in the order of the url, the query keys and the body template, and no name twice. -/
  told : ∀ names, t.expand args charset = .error (.missingValues names) →
    names = t.absentNames args ++ t.noneNames args ∧ names.Nodup
  /-- No look-up fails. -/
  found : ∀ name, t.expand args charset ≠ .error (.unbound name)
  /-- A template that is not refused gives a request, if its body has bytes. -/
  returns_iff : (∀ names, t.expand args charset ≠ .error (.missingValues names)) →
    ((∃ r, t.expand args charset = .ok r) ↔ t.BodyWrites args charset)
  /-- The body has a text if the charset can write each of the arguments. -/
  body_text : (∀ names, t.expand args charset ≠ .error (.missingValues names)) →
    ∀ c, Charset.lookUp charset = .ok c → c ≠ .rot13 → ∀ text, t.bodyTemplate = some text →
      ((∃ decoded, bodyText args charset text = .ok decoded) ↔
        ∀ name ∈ Placeholder.occurrences text, Charset.Writes charset (args.text name).toList)
  /-- Only the arguments of placeholders are read. -/
  unread : ∀ other : Arguments, (∀ name ∈ t.placeholders, other.get? name = args.get? name) →
    t.expand other charset = t.expand args charset
  /-- No argument is written that is none, and no element of a list: the request is also made from a
  template all of whose names have other arguments, and from lists without such elements. -/
  unwritten : ∀ r, t.expand args charset = .ok r →
    (t.withoutNone args).expand (args.mapValues Value.pruned) charset = .ok r ∧
      ∀ name ∈ (t.withoutNone args).placeholders, ∃ v, args.get? name = some v ∧ v ≠ .null
  pruned_items : ∀ (v : Value) (items : List Value), v.pruned.items? = some items →
    ∀ item ∈ items, item.isNull = false ∧ ∃ w : Value, item = w.pruned

variable {t : Template} {args : Arguments} {charset : String}

/-! ### Refusal -/

/-- A template is refused for the values that it misses. -/
theorem expand_eq_missingValues_iff {names : List String} :
    t.expand args charset = .error (.missingValues names) ↔
      t.missing args ≠ [] ∧ names = t.missing args := by
  by_cases hmissing : t.missing args = []
  · refine ⟨fun h => ?_, fun h => absurd hmissing h.1⟩
    obtain ⟨error, he⟩ := exists_coding_of_expand hmissing h
    exact nomatch he
  · rw [expand_of_missing hmissing, Except.error.injEq, ExpansionError.missingValues.injEq]
    exact ⟨fun h => ⟨hmissing, h.symm⟩, fun h => h.2.symm⟩

theorem missing_eq_nil_of_not_refused
    (h : ∀ names, t.expand args charset ≠ .error (.missingValues names)) :
    t.missing args = [] :=
  Decidable.byContradiction fun hne => h _ (expand_eq_missingValues_iff.2 ⟨hne, rfl⟩)

theorem missing_ne_nil_iff :
    t.missing args ≠ [] ↔ (∃ name ∈ t.placeholders, name ∉ args.keys) ∨
      ∃ text ∈ t.url :: t.queries.keys ++ t.bodyTemplate.toList,
        ∃ name ∈ Placeholder.occurrences text, args.get? name = some .null := by
  rw [Ne, missing_eq_nil_iff, not_and_or]
  simp only [not_forall, exists_prop, ne_eq, not_not, requiredPlaceholders,
    Placeholder.mem_namesIn]
  refine or_congr_right ⟨?_, ?_⟩
  · rintro ⟨name, ⟨text, htext, hname⟩, hnone⟩
    exact ⟨text, htext, name, hname, hnone⟩
  · rintro ⟨text, htext, name, hname, hnone⟩
    exact ⟨name, ⟨text, htext, hname⟩, hnone⟩

theorem expand_ne_unbound (name : String) : t.expand args charset ≠ .error (.unbound name) := by
  intro h
  by_cases hmissing : t.missing args = []
  · obtain ⟨error, he⟩ := exists_coding_of_expand hmissing h
    exact nomatch he
  · rw [expand_of_missing hmissing] at h
    exact nomatch h

/-- Where no value is missing, there is a request if the body has bytes. -/
theorem exists_expand_iff (hmissing : t.missing args = []) :
    (∃ r, t.expand args charset = .ok r) ↔ t.BodyWrites args charset := by
  rw [expand_eq hmissing, BodyWrites]
  cases hbody : t.bodyTemplate with
  | none => simp
  | some text =>
    simp only [Option.some.injEq, forall_eq', ← exists_expandBody_iff]
    cases expandBody args charset text with
    | error e => simp [Except.map]
    | ok body => simp [Except.map]

/-! ### None -/

theorem expand_withoutNone (hmissing : t.missing args = []) :
    (t.withoutNone args).expand args charset = t.expand args charset := by
  refine expand_keep (fun text hkeep => ?_) hmissing charset
  obtain ⟨name, hname, hnone⟩ := List.any_eq_true.1 (by simpa using hkeep)
  exact ⟨name, hname, Arguments.value_of_get? (Arguments.isNone_iff.1 hnone)⟩

/-- What is left of a template names only arguments other than none. -/
theorem get?_of_mem_withoutNone (hmissing : t.missing args = []) {name : String}
    (hname : name ∈ (t.withoutNone args).placeholders) :
    ∃ v, args.get? name = some v ∧ v ≠ .null := by
  rw [missing_eq_nil_iff] at hmissing
  obtain ⟨hmem, hplace⟩ := mem_placeholders_keep hname
  obtain ⟨v, hv⟩ := OrderedMap.exists_get?_of_mem_keys (hmissing.1 name hmem)
  refine ⟨v, hv, ?_⟩
  rintro rfl
  rcases hplace with hrequired | ⟨text, hkeep, hname⟩
  · exact hmissing.2 name hrequired hv
  · have hany : (Placeholder.occurrences text).any args.isNone = true :=
      List.any_eq_true.2 ⟨name, hname, Arguments.isNone_iff.2 hv⟩
    rw [hany] at hkeep
    exact nomatch hkeep

end Template

theorem Value.pruned_of_mem_items {v : Value} {items : List Value}
    (h : v.pruned.items? = some items) :
    ∀ item ∈ items, item.isNull = false ∧ ∃ w : Value, item = w.pruned := by
  have hitems : ∃ vs, items = prunedItems vs := by
    cases v with
    | list vs => exact ⟨vs, by simpa [pruned, items?] using h.symm⟩
    | tuple vs => exact ⟨vs, by simpa [pruned, items?] using h.symm⟩
    | _ => exact absurd h (by simp [pruned, items?])
  obtain ⟨vs, rfl⟩ := hitems
  intro item hitem
  rw [prunedItems_eq] at hitem
  obtain ⟨w, hw, rfl⟩ := List.mem_map.1 hitem
  exact ⟨by simpa using (List.mem_filter.1 hw).2, w, rfl⟩

/-- A template is refused exactly as it says, reads no other argument than those of its names, and
writes none nowhere. -/
theorem Template.outcome_of_expand (t : Template) (args : Arguments) (charset : String) :
    t.Outcome args charset where
  refused_iff := by
    rw [← missing_ne_nil_iff]
    constructor
    · rintro ⟨names, h⟩
      exact (expand_eq_missingValues_iff.1 h).1
    · intro h
      exact ⟨_, expand_eq_missingValues_iff.2 ⟨h, rfl⟩⟩
  told := by
    intro names h
    obtain ⟨-, rfl⟩ := expand_eq_missingValues_iff.1 h
    exact ⟨missing_eq_append t args, nodup_missing t args⟩
  found := expand_ne_unbound
  returns_iff h := exists_expand_iff (missing_eq_nil_of_not_refused h)
  body_text h _ hcharset hbytes _ hbody :=
    exists_bodyText_iff (covers_bodyTemplate (missing_eq_nil_of_not_refused h) hbody) hcharset
      hbytes
  unread _ h := expand_alike (Arguments.alikeOn_of_get? h) charset
  unwritten r h := by
    -- First the elements that are none go, and then the values that mention a name bound to none.
    have hmissing := missing_of_expand h
    refine ⟨?_, fun name => get?_of_mem_withoutNone hmissing⟩
    rw [expand_alike (Arguments.alikeOn_pruned args _), expand_withoutNone hmissing, h]
  pruned_items _ _ := Value.pruned_of_mem_items

/-- A body with a literal outside ASCII. -/
def accented : Template where
  method := "POST"
  bodyTemplate := some "é{x}"

/-- A body with an escape that is cut off in front of a placeholder. -/
def cutOff : Template where
  method := "POST"
  bodyTemplate := some "%{x}"

/-- An argument that completes an escape. -/
def digits : Arguments :=
  .ofList [("x", .text "FF")]

/-- Every argument can be written in ASCII and no value is missing, but there is no request. -/
theorem coding_error_of_writes :
    (∀ name ∈ digits.keys, Charset.Writes "ascii" (digits.text name).toList) ∧
      accented.missing digits = [] ∧
      accented.expand digits "ascii" =
        .error (.coding (.unencodable .ascii ⟨'é', 0, 0⟩)) ∧
      cutOff.missing digits = [] ∧
      cutOff.expand digits "ascii" =
        .error (.coding (.unencodable .ascii ⟨'\uFFFD', 0, 0⟩)) := by
  refine ⟨?_, rfl, rfl, rfl, rfl⟩
  decide

end HttpInterface
