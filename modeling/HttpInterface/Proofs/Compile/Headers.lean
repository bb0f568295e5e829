import HttpInterface.Header
import HttpInterface.Proofs.Compile.Method
import HttpInterface.Proofs.OrderedMap.Grouping
import HttpInterface.Proofs.Text.Blank
import HttpInterface.Proofs.Text.Split

/-!
# `HttpInterface.Proofs.Compile.Headers`: declared headers in the template

A text that declares a header is `Declares`: something other than blanks stands before its
first colon. These are the texts that are read (`isSome_parse?_iff`), and what is read of
them is `split`, the parts at that colon without the blanks around them
(`eq_split_of_parse?`). A name and a value that need no trimming are read back from the
text that they are written as (`parse?_of_written`).

`declaredHeaders` are the headers of the class and then those of the method, each taken
apart at its first colon. The template holds them grouped by their names, and nothing
else: every name once, where it comes first, with its values in their order
(`headers_of_compile`). A declared body states or leaves open its own length, so
`keepsHeader` sets `Content-Length` aside there. Another spelling of that name is another
name.
-/

set_option autoImplicit false

namespace HttpInterface.Header

open Text

/-- Something other than blanks stands before the first colon. -/
def Declares (text : String) : Prop :=
  ∃ front value, text.toList = front ++ ':' :: value ∧ ':' ∉ front ∧
    ∃ c ∈ front, isBlank c = false

/-- The text taken apart at its first colon, without the blanks around the parts. -/
def split (text : String) : String × String :=
  let parts := cut ':' text.toList
  (String.ofList (trim parts.1), String.ofList (trim (parts.2.getD [])))

/-- What a text is read as, put in terms of where its first colon stands. -/
theorem parse?_of_cut {text : String} {front value : List Char}
    (hcut : cut ':' text.toList = (front, some value)) :
    parse? text = if (trim front).isEmpty then none
      else some ⟨String.ofList (trim front), String.ofList (trim value)⟩ := by
  rw [parse?, hcut]

theorem isSome_parse?_iff (text : String) : (parse? text).isSome ↔ Declares text := by
  rcases cut_cases ':' text.toList with ⟨hnone, hcut⟩ | ⟨front, value, htext, hfront, hcut⟩
  · rw [parse?, hcut]
    refine ⟨fun h => (nomatch h), ?_⟩
    rintro ⟨front, value, htext, -⟩
    exact absurd (htext ▸ by simp) hnone
  · rw [parse?_of_cut hcut]
    constructor
    · intro h
      refine ⟨front, value, htext, hfront, trim_ne_nil_iff.1 fun hempty => ?_⟩
      simp [hempty] at h
    · rintro ⟨front', value', htext', hfront', hsolid⟩
      -- The first colon stands in one place only.
      have hsame : cut ':' text.toList = (front', some value') := htext' ▸ cut_append hfront' value'
      obtain rfl : front = front' := (Prod.mk.inj (hcut.symm.trans hsame)).1
      simp [trim_ne_nil_iff.2 hsolid]

theorem eq_split_of_parse? {text : String} {h : Header} (hparse : parse? text = some h) :
    (h.name, h.value) = split text := by
  rcases cut_cases ':' text.toList with ⟨-, hcut⟩ | ⟨front, value, -, -, hcut⟩
  · rw [parse?, hcut] at hparse
    exact nomatch hparse
  · rw [parse?_of_cut hcut] at hparse
    split at hparse
    · exact nomatch hparse
    · obtain rfl := Option.some.inj hparse
      rw [split, hcut]
      rfl

/-- A header is read back from its text, whatever blanks stand before the value. -/
theorem parse?_of_written {name w value : String} (hname : Trimmed name.toList) (hne : name ≠ "")
    (hcolon : ':' ∉ name.toList) (hvalue : Trimmed value.toList) (hw : Blanks w.toList) :
    parse? (name ++ ":" ++ w ++ value) = some ⟨name, value⟩ := by
  have hcut : cut ':' (name ++ ":" ++ w ++ value).toList =
      (name.toList, some (w.toList ++ value.toList)) := by
    rw [← cut_append hcolon]
    simp [String.toList_append]
  have htrim : trim name.toList = name.toList := by
    simpa using trim_append blanks_nil hname blanks_nil
  have htrimvalue : trim (w.toList ++ value.toList) = value.toList := by
    simpa using trim_append hw hvalue blanks_nil
  rw [parse?_of_cut hcut, htrim, htrimvalue, if_neg (by simpa using hne), String.ofList_toList,
    String.ofList_toList]

end HttpInterface.Header

namespace HttpInterface.Declaration

/-- The headers of the class and then those of the method, name by value. -/
def declaredHeaders (d : Declaration) : List (String × String) :=
  (d.classHeaders ++ d.methodHeaders).map Header.split

/-- A header of this name is left as it is declared. -/
def keepsHeader (d : Declaration) (name : String) : Bool :=
  d.body.isNone || name != Header.contentLength

/-- The headers of the template are those of the declaration. -/
structure HeadersReach (d : Declaration) (t : Template) : Prop where
  /-- Every text declares a header. -/
  declares : ∀ text ∈ d.classHeaders ++ d.methodHeaders, Header.Declares text
  /-- The declared headers grouped by their names, but for the length of a declared body. -/
  entries : (t.headers.entries.filter fun e => d.keepsHeader e.1) =
    grouped (d.declaredHeaders.filter fun p => d.keepsHeader p.1)

variable {d : Declaration} {charset : String} {line : RequestLine} {draft : Draft}

/-- Where all headers are well-formed, none is lost by taking them apart. -/
theorem map_parsedHeaders (h : ∀ text ∈ d.headers, (Header.parse? text).isSome) :
    (d.parsedHeaders.map fun header => (header.name, header.value)) = d.declaredHeaders := by
  have key : ∀ texts : List String, (∀ text ∈ texts, (Header.parse? text).isSome) →
      ((texts.filterMap Header.parse?).map fun header => (header.name, header.value)) =
        texts.map Header.split := by
    intro texts
    induction texts with
    | nil => exact fun _ => rfl
    | cons text rest ih =>
      intro h
      obtain ⟨parsed, hparsed⟩ := Option.isSome_iff_exists.1 (h text List.mem_cons_self)
      rw [List.filterMap_cons_some hparsed, List.map_cons, List.map_cons,
        Header.eq_split_of_parse? hparsed, ih fun t ht => h t (List.mem_cons_of_mem _ ht)]
  exact key d.headers h

/-- Setting the body changes no header but the one that states the length. -/
theorem filter_headers_draft (h : d.setDeclaredBody (d.headedDraft charset line) = .ok draft) :
    (draft.headers.entries.filter fun e => d.keepsHeader e.1) =
      (d.headedDraft charset line).headers.entries.filter fun e => d.keepsHeader e.1 := by
  rcases setDeclaredBody_eq_ok h with
    ⟨-, rfl⟩ | ⟨text, hbody, ⟨-, rfl⟩ | ⟨-, bytes, -, rfl⟩⟩
  · rfl
  · -- What is erased is not kept anyway.
    rw [Draft.setBodyTemplate, OrderedMap.entries_erase, List.filter_filter]
    refine List.filter_congr fun e _ => ?_
    by_cases he : e.1 = Header.contentLength
    · simp [he, keepsHeader, hbody]
    · simp [he]
  · exact OrderedMap.filter_entries_insert (by simp [keepsHeader, hbody]) _ _

theorem headersReach_draft (h : d.draft charset = .ok draft) : d.HeadersReach draft.template := by
  obtain ⟨line, -, hheaders, hset⟩ := draft_eq_ok h
  refine ⟨fun text htext => (Header.isSome_parse?_iff text).1 (hheaders text htext), ?_⟩
  show (draft.headers.entries.filter _) = _
  rw [filter_headers_draft hset, headedDraft, OrderedMap.entries_pushAll, filter_grouped,
    map_parsedHeaders hheaders]

/-- Declared headers reach the template whole and in order, and this is what a header is: the
texts that declare one, and what is read of a name and a value that are written as one. -/
theorem headers_of_compile :
    (∀ (d : Declaration) (settings : Settings) (r : NameResolver) (m : CompiledMethod),
      (d.compile settings r).result = .ok m → d.HeadersReach m.template) ∧
    (∀ text : String, (Header.parse? text).isSome ↔ Header.Declares text) ∧
    ∀ name w value : String, Text.Trimmed name.toList → name ≠ "" → ':' ∉ name.toList →
      Text.Trimmed value.toList → Text.Blanks w.toList →
      Header.parse? (name ++ ":" ++ w ++ value) = some ⟨name, value⟩ := by
  refine ⟨?_, Header.isSome_parse?_iff, fun _ _ _ => Header.parse?_of_written⟩
  intro d settings r m hm
  obtain ⟨draft, hdraft, -, -, rfl⟩ := compile_eq_ok.1 hm
  exact headersReach_draft hdraft

/-- A declaration whose class and method have headers of one name, and one that the length of the
body replaces. -/
def tagged : Declaration where
  declaringType := "Notes"
  methodName := "tag"
  requestLine := some "PUT /notes"
  classHeaders := ["X-Tag: a:b", "Content-Length: 7", "x-tag:"]
  methodHeaders := ["X-Tag :  c\t"]
  body := some "hi"

theorem headers_of_tagged :
    ∃ m, (tagged.compile {} (.standard true)).result = .ok m ∧
      (m.template.headers.entries.filter fun e => tagged.keepsHeader e.1) =
        [("X-Tag", ["a:b", "c"]), ("x-tag", [""])] ∧
      Text.Trimmed "X-Tag".toList ∧ Text.Trimmed "a:b".toList ∧ Text.Blanks "\u00a0 ".toList ∧
      Header.parse? ("X-Tag" ++ ":" ++ "\u00a0 " ++ "a:b") = some ⟨"X-Tag", "a:b"⟩ := by
  refine ⟨_, rfl, ?_, by decide, by decide, by decide, ?_⟩
  · refine (headers_of_compile.1 tagged {} (.standard true) _ rfl).entries.trans ?_
    decide
  · exact headers_of_compile.2.2 "X-Tag" "\u00a0 " "a:b" (by decide) (by decide) (by decide)
      (by decide) (by decide)

end HttpInterface.Declaration
