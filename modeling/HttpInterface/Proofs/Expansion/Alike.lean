import HttpInterface.Proofs.Body
import HttpInterface.Proofs.Expansion.Values

/-!
# `HttpInterface.Proofs.Expansion.Alike`: what of the arguments counts

Expanding asks of an argument whether it is there, whether it is none, which text it has and, if
it is a list, which texts its elements have. `Value.Alike` says that two values agree in all
this, and `Arguments.AlikeOn` that the arguments of some names do. `expand_alike` is the
consequence: arguments that are alike on the names of a template give it the same outcome. Each step
of expanding has a lemma of its own, on the names of the text that it fills.

Two kinds of arguments are alike: those that are the same (`Arguments.alikeOn_of_get?`), and those
from which the elements that are none are taken out (`Value.pruned`, `alikeOn_pruned`).
-/

set_option autoImplicit false

namespace HttpInterface

/-! ### Values -/

namespace Value

/-- Two values are written in the same way. -/
structure Alike (v w : Value) : Prop where
  isNull : v.isNull = w.isNull
  text : v.requestText = w.requestText
  elements : v.items?.map requestTexts = w.items?.map requestTexts

@[refl] theorem Alike.refl (v : Value) : v.Alike v := ⟨rfl, rfl, rfl⟩

mutual

/-- A value without the elements of its lists and tuples that are none, at every depth. -/
def pruned : Value → Value
  | list items => list (prunedItems items)
  | tuple items => tuple (prunedItems items)
  | v => v

/-- The elements that are not none, each without the elements that are. -/
def prunedItems : List Value → List Value
  | [] => []
  | v :: rest => if v.isNull then prunedItems rest else pruned v :: prunedItems rest

end

theorem prunedItems_eq (items : List Value) :
    prunedItems items = (items.filter fun item => !item.isNull).map pruned := by
  induction items with
  | nil => rfl
  | cons v rest ih =>
    rw [prunedItems, ih]
    cases hnull : v.isNull with
    | true => simp [hnull]
    | false => simp [hnull]

@[simp] theorem isNull_pruned (v : Value) : v.pruned.isNull = v.isNull := by
  cases v <;> simp [pruned, isNull]

mutual

theorem requestText_pruned : ∀ v : Value, v.pruned.requestText = v.requestText
  | list items => by rw [pruned, requestText, requestText, requestTexts_prunedItems items]
  | tuple items => by rw [pruned, requestText, requestText, requestTexts_prunedItems items]
  | null | bool _ | int _ | float _ | text _ | bytes _ | dict _ | url _ => by simp [pruned]

theorem requestTexts_prunedItems :
    ∀ items : List Value, requestTexts (prunedItems items) = requestTexts items
  | [] => rfl
  | v :: rest => by
    rw [prunedItems, requestTexts]
    -- An element that is none is written on neither side.
    cases hnull : v.isNull with
    | true => exact requestTexts_prunedItems rest
    | false =>
      simp only [Bool.false_eq_true, if_false]
      rw [requestTexts, isNull_pruned, hnull, requestText_pruned v,
        requestTexts_prunedItems rest]
      rfl

end

/-- The elements that are none are written nowhere. -/
theorem alike_pruned (v : Value) : v.pruned.Alike v where
  isNull := isNull_pruned v
  text := requestText_pruned v
  elements := by
    cases v with
    | list items => simp [pruned, items?, requestTexts_prunedItems]
    | tuple items => simp [pruned, items?, requestTexts_prunedItems]
    | _ => simp [pruned]

end Value

/-! ### Arguments -/

namespace Arguments

/-- Two calls have arguments for the same of some names, and these are alike. -/
def AlikeOn (args other : Arguments) (names : List String) : Prop :=
  ∀ name ∈ names, (name ∈ args.keys ↔ name ∈ other.keys) ∧
    (args.value name).Alike (other.value name)

variable {args other : Arguments} {names : List String}

theorem AlikeOn.mono {fewer : List String} (h : args.AlikeOn other names) (hsub : fewer ⊆ names) :
    args.AlikeOn other fewer :=
  fun name hname => h name (hsub hname)

/-- The same arguments are alike. -/
theorem alikeOn_of_get? (h : ∀ name ∈ names, args.get? name = other.get? name) :
    args.AlikeOn other names := by
  intro name hname
  refine ⟨?_, ?_⟩
  · rw [← not_iff_not, ← OrderedMap.get?_eq_none_iff, ← OrderedMap.get?_eq_none_iff, h name hname]
  · rw [value, value, h name hname]

/-- Elements that are none do not count. -/
theorem alikeOn_pruned (args : Arguments) (names : List String) :
    Arguments.AlikeOn (args.mapValues Value.pruned) args names := by
  intro name _
  have hget := OrderedMap.get?_mapValues Value.pruned args name
  constructor
  · rw [← not_iff_not, ← OrderedMap.get?_eq_none_iff, ← OrderedMap.get?_eq_none_iff, hget,
      Option.map_eq_none_iff]
  · rw [value, value, hget]
    cases args.get? name with
    | none => rfl
    | some v => exact Value.alike_pruned v

theorem AlikeOn.contains (h : args.AlikeOn other names) {name : String} (hname : name ∈ names) :
    args.contains name = other.contains name := by
  rw [Bool.eq_iff_iff, OrderedMap.contains_iff, OrderedMap.contains_iff]
  exact (h name hname).1

theorem isNone_eq (args : Arguments) (name : String) :
    args.isNone name = (args.contains name && (args.value name).isNull) := by
  rw [isNone, value, ← OrderedMap.isSome_get?]
  cases args.get? name with
  | none => rfl
  | some v => rfl

theorem AlikeOn.isNone (h : args.AlikeOn other names) {name : String} (hname : name ∈ names) :
    args.isNone name = other.isNone name := by
  rw [isNone_eq, isNone_eq, h.contains hname, (h name hname).2.isNull]

end Arguments

namespace Template

variable {args other : Arguments} {text : String}

/-! ### Texts -/

section

variable (h : args.AlikeOn other (Placeholder.occurrences text)) (write : String → String)
include h

theorem filled_alike :
    filled args (fun v => write v.requestText) text =
      filled other (fun v => write v.requestText) text := by
  rw [filled, filled, Placeholder.substitute_eq, Placeholder.substitute_eq]
  refine congrArg String.ofList (Placeholder.filled_congr fun name hname => ?_)
  rw [(h name hname).2.text]

theorem filledUnlessNone_alike :
    filledUnlessNone args (fun v => write v.requestText) text =
      filledUnlessNone other (fun v => write v.requestText) text := by
  have hany : (Placeholder.names text).any (fun name => (args.value name).isNull) =
      (Placeholder.names text).any fun name => (other.value name).isNull := by
    rw [Bool.eq_iff_iff, List.any_eq_true, List.any_eq_true]
    refine exists_congr fun name => and_congr_right fun hname => ?_
    rw [(h name (Placeholder.mem_names.1 hname)).2.isNull]
  rw [filledUnlessNone, filledUnlessNone, hany, filled_alike h]

theorem fannedOut_alike :
    fannedOut args (fun v => write v.requestText) text =
      fannedOut other (fun v => write v.requestText) text := by
  rw [fannedOut, fannedOut]
  cases honly : Placeholder.only? text with
  | none => exact filledUnlessNone_alike h write
  | some name =>
    have hname : name ∈ Placeholder.occurrences text := by
      rw [Placeholder.occurrences_of_only? honly]
      exact List.mem_singleton.2 rfl
    have helements := (h name hname).2.elements
    -- Both arguments are lists with the same texts, or neither is a list.
    cases hargs : (args.value name).items? with
    | none =>
      cases hother : (other.value name).items? with
      | none => simpa only [hargs, hother] using filledUnlessNone_alike h write
      | some items => simp [hargs, hother] at helements
    | some items =>
      cases hother : (other.value name).items? with
      | none => simp [hargs, hother] at helements
      | some items' =>
        rw [hargs, hother, Option.map_some, Option.map_some, Option.some.injEq,
          Value.requestTexts_eq, Value.requestTexts_eq] at helements
        have hwritten := congrArg (List.map write) helements
        simpa only [List.map_map, Function.comp_def, hargs, hother] using hwritten

theorem bodyText_alike (charset : String) :
    bodyText args charset text = bodyText other charset text := by
  have hquoted : ∀ name ∈ Placeholder.occurrences text,
      (do orCoding (Percent.quoteIn charset (← args.find name).requestText)) =
        (do orCoding (Percent.quoteIn charset (← other.find name).requestText)) := by
    intro name hname
    by_cases hmem : name ∈ args.keys
    · rw [Arguments.find_eq_ok hmem, Arguments.find_eq_ok ((h name hname).1.1 hmem)]
      show orCoding (Percent.quoteIn charset (args.value name).requestText) =
        orCoding (Percent.quoteIn charset (other.value name).requestText)
      rw [(h name hname).2.text]
    · -- Both look-ups fail, and they tell the same name.
      have hother : name ∉ other.keys := mt (h name hname).1.2 hmem
      rw [Arguments.find, Arguments.find, OrderedMap.get?_eq_none_iff.2 hmem,
        OrderedMap.get?_eq_none_iff.2 hother]
  rw [bodyText, bodyText, Placeholder.substituteM_congr hquoted]

end

theorem queryValues_alike {value : Option String}
    (h : ∀ text ∈ value, args.AlikeOn other (Placeholder.occurrences text)) :
    queryValues args value = queryValues other value := by
  cases value with
  | none => rfl
  | some text => exact congrArg (List.map some) (fannedOut_alike (h text rfl) Percent.quote)

/-! ### The template -/

variable {t : Template}

section

variable (h : args.AlikeOn other t.placeholders)
include h

theorem missing_alike : t.missing args = t.missing other := by
  rw [missing, missing]
  congr 1
  · exact List.filter_congr fun name hname => by rw [h.contains hname]
  · exact List.filter_congr fun name hname => h.isNone (t.requiredPlaceholders_subset hname)

theorem queryRows_alike : t.queryRows args = t.queryRows other := by
  refine List.map_congr_left fun e he => ?_
  obtain ⟨values, hentry, hvalue⟩ := OrderedMap.mem_pairs.1 he
  refine Prod.ext ?_ ?_
  · exact filled_alike (h.mono (occurrences_subset_placeholders (key_mem_httpTexts hentry)))
      Percent.quote
  · refine queryValues_alike fun text htext => h.mono (occurrences_subset_placeholders ?_)
    exact value_mem_httpTexts hentry (Option.mem_def.1 htext ▸ hvalue)

theorem headerRows_alike : t.headerRows args = t.headerRows other := by
  refine List.map_congr_left fun e he => Prod.ext rfl ?_
  obtain ⟨texts, hentry, htext⟩ := OrderedMap.mem_pairs.1 he
  exact fannedOut_alike
    (h.mono (occurrences_subset_placeholders (header_mem_httpTexts hentry htext))) id

theorem filledRequest_alike : t.filledRequest args = t.filledRequest other := by
  have hurl : (t.filledRequest args).url = (t.filledRequest other).url :=
    filled_alike (h.mono (occurrences_subset_placeholders t.url_mem_httpTexts)) Percent.quote
  have hqueries : (t.filledRequest args).queries = (t.filledRequest other).queries := by
    rw [queries_eq_gather, queries_eq_gather, queryRows_alike h]
  have hheaders : (t.filledRequest args).headers = (t.filledRequest other).headers := by
    rw [headers_eq_gather, headers_eq_gather, headerRows_alike h]
  rw [filledRequest, filledRequest, ExpandedRequest.mk.injEq]
  exact ⟨rfl, hurl, hqueries, hheaders, rfl⟩

/-- Arguments that are alike on the names of a template give it the same outcome. -/
theorem expand_alike (charset : String) : t.expand args charset = t.expand other charset := by
  have hmissing := missing_alike h
  by_cases hnone : t.missing args = []
  · rw [expand_eq hnone, expand_eq (hmissing ▸ hnone), filledRequest_alike h]
    cases hbody : t.bodyTemplate with
    | none => rfl
    | some text =>
      have htext := bodyText_alike (h.mono (occurrences_bodyTemplate_subset hbody)) charset
      simp only [expandBody_eq_bodyText, htext]
  · rw [expand_of_missing hnone, expand_of_missing (hmissing ▸ hnone), hmissing]

end

end Template

end HttpInterface
