import HttpInterface.Proofs.PathAndQuery
import HttpInterface.Proofs.Percent.Unquote
import HttpInterface.Proofs.Text.Split
import HttpInterface.Url.Escape

/-!
# `HttpInterface.Proofs.Url.Escape`: escaping changes no meaning

A part of a URL is escaped when the URL is brought to its normal form, and its own escapes are
left alone (`Transparent`). So the escaped part is unquoted to the same text (`unquote_escape`),
and a path has the same components, each of them escaped (`splitOn_escape`). The characters that
separate the entries of a query and end keys are allowed in a query, and no other character is
written with them. So the entries of an escaped query are its entries, each of them escaped
(`readEntries_escape`).
-/

set_option autoImplicit false

namespace HttpInterface

namespace Url

/-- The part may hold escapes. -/
structure Transparent (forbidden : List Char) : Prop where
  percent : '%' ∉ forbidden
  digit : ∀ c ∈ forbidden, Text.hexDigit? c = none

theorem transparent_unsafeInPath : Transparent unsafeInPath where
  percent := by decide
  digit := by
    have hall : unsafeInPath.all fun c => (Text.hexDigit? c).isNone := by decide
    exact fun c hc => Option.isNone_iff_eq_none.1 (List.all_eq_true.1 hall c hc)

/-! ### One character -/

theorem escapeChar_of_printable {forbidden : List Char} {c : Char} (hc : isPrintableAscii c = true)
    (hmem : c ∉ forbidden) : escapeChar forbidden c = [c] :=
  if_pos ⟨hc, hmem⟩

/-- A character stays as it is, or its bytes are written as escapes. -/
theorem escapeChar_cases (forbidden : List Char) (c : Char) :
    escapeChar forbidden c = [c] ∨
      ((isPrintableAscii c = true → c ∈ forbidden) ∧
        escapeChar forbidden c = (String.utf8EncodeChar c).flatMap Percent.escape) := by
  by_cases hc : isPrintableAscii c = true ∧ c ∉ forbidden
  · exact Or.inl (if_pos hc)
  · refine Or.inr ⟨fun hprintable => ?_, ?_⟩
    · exact Decidable.byContradiction fun hmem => hc ⟨hprintable, hmem⟩
    · rw [escapeChar, if_neg hc, Charset.Utf8.encode, List.flatMap_singleton]

/-- What is written for a character begins with the character or as an escape. -/
theorem escapeChar_head (forbidden : List Char) (c : Char) :
    escapeChar forbidden c = [c] ∨ ∃ rest, escapeChar forbidden c = '%' :: rest := by
  refine (escapeChar_cases forbidden c).imp_right fun ⟨_, hescaped⟩ => ?_
  obtain ⟨b, bytes, hbytes, -⟩ := Charset.Utf8.exists_utf8EncodeChar_cons c
  rw [hescaped, hbytes]
  exact ⟨_, rfl⟩

theorem escapeChar_ne_nil (forbidden : List Char) (c : Char) : escapeChar forbidden c ≠ [] := by
  rcases escapeChar_head forbidden c with h | ⟨rest, h⟩
  · simp [h]
  · simp [h]

theorem not_mem_escapeChar {forbidden : List Char} {sep c : Char}
    (hsep : Percent.isReserved sep = true) (hc : c ≠ sep) : sep ∉ escapeChar forbidden c := by
  intro hmem
  rcases escapeChar_cases forbidden c with hkept | ⟨-, hescaped⟩
  · rw [hkept, List.mem_singleton] at hmem
    exact hc hmem.symm
  · rw [hescaped] at hmem
    obtain ⟨b, -, hmem⟩ := List.mem_flatMap.1 hmem
    exact Percent.not_mem_escape hsep b hmem

theorem isPrintableAscii_of_hexDigit? {c : Char} (h : (Text.hexDigit? c).isSome = true) :
    isPrintableAscii c = true := by
  have key : ∀ low high : Char, 0x20 ≤ low.toNat → high.toNat < 0x7F → low ≤ c ∧ c ≤ high →
      isPrintableAscii c = true := by
    intro low high hlow hhigh hc
    have hlc : low.toNat ≤ c.toNat := hc.1
    have hch : c.toNat ≤ high.toNat := hc.2
    rw [isPrintableAscii, Bool.and_eq_true, decide_eq_true_iff, decide_eq_true_iff]
    omega
  rw [Text.hexDigit?] at h
  split at h
  · next hc => exact key '0' '9' (by decide) (by decide) hc
  split at h
  · next hc => exact key 'a' 'f' (by decide) (by decide) hc
  split at h
  · next hc => exact key 'A' 'F' (by decide) (by decide) hc
  · cases h

theorem escapeChar_of_hexDigit? {forbidden : List Char} (h : Transparent forbidden) {c : Char}
    (hc : (Text.hexDigit? c).isSome = true) : escapeChar forbidden c = [c] := by
  refine escapeChar_of_printable (isPrintableAscii_of_hexDigit? hc) fun hmem => ?_
  rw [h.digit c hmem] at hc
  exact nomatch hc

/-! ### Bytes -/

/-- Escaping makes no escape of what was none. -/
theorem startsWithDigits_escape {forbidden cs : List Char}
    (h : Percent.startsWithDigits cs = false) :
    Percent.startsWithDigits (escape forbidden cs) = false := by
  have hpercent : Text.hexDigit? '%' = none := by decide
  -- A character that is not kept is written with `%` in front, which is no digit.
  match cs with
  | [] => rfl
  | c :: cs =>
    rw [escape, List.flatMap_cons]
    rcases escapeChar_head forbidden c with hc | ⟨rest, hc⟩
    · rw [hc, List.singleton_append]
      match cs with
      | [] => rfl
      | d :: cs =>
        rw [List.flatMap_cons]
        rcases escapeChar_head forbidden d with hd | ⟨rest, hd⟩
        · rw [hd]
          exact h
        · rw [hd, List.cons_append, Percent.startsWithDigits,
            Percent.byteOfDigits?_eq_none (Or.inr hpercent)]
          rfl
    · rw [hc]
      exact Percent.startsWithDigits_of_head? fun c hc => Option.some.inj hc ▸ hpercent

/-- An escaped part has the same bytes. -/
theorem bytesOfText_escape {forbidden : List Char} (h : Transparent forbidden) (cs : List Char) :
    Percent.bytesOfText (escape forbidden cs) = Percent.bytesOfText cs := by
  have hpercent : escapeChar forbidden '%' = ['%'] := escapeChar_of_printable (by decide) h.percent
  induction cs using Percent.text_induction with
  | nil => rfl
  | char c cs hc ih =>
    rw [escape, List.flatMap_cons, ← escape, Percent.bytesOfText_cons hc, ← ih]
    rcases escapeChar_cases forbidden c with hkept | ⟨-, hescaped⟩
    · rw [hkept, List.singleton_append,
        Percent.bytesOfText_cons fun hc' => startsWithDigits_escape (hc hc')]
    · rw [hescaped, Percent.bytesOfText_flatMap_escape_append]
  | escape high low b cs hb ih =>
    -- An escape that is there is kept as it stands.
    obtain ⟨hhigh, hlow⟩ := Percent.isSome_of_byteOfDigits? hb
    rw [escape, List.flatMap_cons, List.flatMap_cons, List.flatMap_cons, ← escape, hpercent,
      escapeChar_of_hexDigit? h hhigh, escapeChar_of_hexDigit? h hlow]
    show Percent.bytesOfText ('%' :: high :: low :: escape forbidden cs) = _
    rw [Percent.bytesOfText_digits hb, Percent.bytesOfText_digits hb, ih]

/-- An escaped part is unquoted like the part itself. -/
theorem unquote_escape {forbidden : List Char} (h : Transparent forbidden) (cs : List Char) :
    Percent.unquote (String.ofList (escape forbidden cs)) = Percent.unquote (String.ofList cs) := by
  rw [Percent.unquote_eq, Percent.unquote_eq, String.toList_ofList, String.toList_ofList,
    bytesOfText_escape h]

/-! ### Components -/

/-- The components of an escaped path are the escaped components. -/
theorem splitOn_escape (cs : List Char) :
    Text.splitOn '/' (escape unsafeInPath cs) = (Text.splitOn '/' cs).map (escape unsafeInPath) :=
  Text.splitOn_flatMap (escapeChar_of_printable (by decide) (by decide))
    (fun _ hc => not_mem_escapeChar (by decide) hc) cs

end Url

/-! ### The entries of a query -/

/-- An entry as it stands in the query of a URL in normal form. -/
def QueryEntry.escaped (e : QueryEntry) : QueryEntry :=
  (String.ofList (Url.escape Url.unsafeInQuery e.1.toList),
    e.2.map fun value => String.ofList (Url.escape Url.unsafeInQuery value.toList))

namespace Url

theorem escape_eq_nil_iff {forbidden cs : List Char} : escape forbidden cs = [] ↔ cs = [] := by
  rw [escape, List.flatMap_eq_nil_iff]
  constructor
  · intro h
    exact List.eq_nil_iff_forall_not_mem.2 fun c hc => escapeChar_ne_nil forbidden c (h c hc)
  · rintro rfl c hc
    exact absurd hc List.not_mem_nil

/-- An escaped text between two separators is read as the escaped entry. -/
theorem ofChars_escape (part : List Char) :
    QueryEntry.ofChars (escape unsafeInQuery part) = (QueryEntry.ofChars part).escaped := by
  have hcut : Text.cut '=' (escape unsafeInQuery part) =
      (escape unsafeInQuery (Text.cut '=' part).1,
        (Text.cut '=' part).2.map (escape unsafeInQuery)) :=
    Text.cut_flatMap (escapeChar_of_printable (by decide) (by decide))
      (fun _ hc => not_mem_escapeChar (by decide) hc) part
  rw [QueryEntry.ofChars, QueryEntry.ofChars, hcut, QueryEntry.escaped]
  simp [Function.comp_def]

/-- The entries of an escaped query are the escaped entries. -/
theorem readEntries_escape (query : List Char) :
    PathAndQuery.readEntries (escape unsafeInQuery query) =
      (PathAndQuery.readEntries query).map QueryEntry.escaped := by
  have hsplit : Text.splitOn '&' (escape unsafeInQuery query) =
      (Text.splitOn '&' query).map (escape unsafeInQuery) :=
    Text.splitOn_flatMap (escapeChar_of_printable (by decide) (by decide))
      (fun _ hc => not_mem_escapeChar (by decide) hc) query
  -- An entry is skipped if it is empty, escaped or not.
  have hempty : ((fun cs : List Char => !cs.isEmpty) ∘ escape unsafeInQuery) =
      fun cs => !cs.isEmpty := by
    funext cs
    rw [Function.comp_apply, Bool.not_inj_iff, Bool.eq_iff_iff, List.isEmpty_iff, List.isEmpty_iff,
      escape_eq_nil_iff]
  rw [PathAndQuery.readEntries, PathAndQuery.readEntries, hsplit, List.filter_map, hempty,
    List.map_map, List.map_map]
  exact List.map_congr_left fun part _ => ofChars_escape part

end Url

end HttpInterface
