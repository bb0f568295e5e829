import HttpInterface.Proofs.Body

/-!
# `HttpInterface.Proofs.Body.Literal`: a filled body and a literal body

A body without placeholders is encoded at once. A body template is filled with texts that are
quoted byte by byte in the charset, and then each run of ASCII characters is read as bytes of the
charset, literals and quoted texts together. Both ways give the same bytes if the charset keeps
ASCII.

`literal_iff_keepsAscii` states that no other charset will do: the mark of an argument is read in
the middle of a run, and the letters of a literal are taken for halves of characters. Where
all arguments are empty nothing is quoted, so there every charset will do.
-/

set_option autoImplicit false

namespace HttpInterface

/-! ### One charset under two names -/

section

variable {a b : String} {c : Charset} (ha : Charset.lookUp a = .ok c)
  (hb : Charset.lookUp b = .ok c) (hbytes : c ≠ .rot13)
include ha hb hbytes

theorem Charset.encode_congr : Charset.encode a = Charset.encode b := by
  funext cs
  rw [encode_eq ha, encode_eq hb, encodeAs_congr hbytes a b]

theorem Charset.decode_congr : Charset.decode a = Charset.decode b := by
  funext bytes
  rw [decode_eq ha, decode_eq hb, decodeAs_congr hbytes a b]

theorem Percent.quoteIn_congr : Percent.quoteIn a = Percent.quoteIn b := by
  funext text
  rw [quoteIn, quoteIn, Charset.encode_congr ha hb hbytes]

theorem Percent.unquoteIn_congr : Percent.unquoteIn a = Percent.unquoteIn b := by
  have hsegment : Segment.unquoted a = Segment.unquoted b := by
    funext s
    cases s with
    | ascii run => rw [Segment.unquoted, Segment.unquoted, Charset.decode_congr ha hb hbytes]
    | other c => rfl
  funext text
  rw [unquoteIn, unquoteIn, hsegment]

/-- A body depends on the name of a charset only through the charset. -/
theorem Template.expandBody_congr (args : Arguments) (text : String) :
    expandBody args a text = expandBody args b text := by
  simp only [expandBody, Percent.quoteIn_congr ha hb hbytes, Percent.unquoteIn_congr ha hb hbytes,
    Charset.encode_congr ha hb hbytes]

end

namespace Template

variable {t : Template} {args : Arguments} {charset text : String} {c : Charset}

/-- The template gets the body that the filled text has as a literal body: the bytes of the text,
which a draft stores for it. -/
def BodyIsLiteral (t : Template) (args : Arguments) (charset text : String) : Prop :=
  ∃ r body, t.expand args charset = .ok r ∧ r.body = some body ∧
    Charset.encode charset (filled args Value.requestText text).toList = .ok body ∧
    ∀ d : Draft, d.charset = charset →
      Placeholder.occursIn (filled args Value.requestText text) = false →
      d.setBody (filled args Value.requestText text) = .ok (d.setLiteralBody body)

theorem bodyIsLiteral_of_expandBody (htext : t.bodyTemplate = some text)
    (hmissing : t.missing args = []) {body : Bytes}
    (hexpand : expandBody args charset text = .ok body)
    (hbody : Charset.encode charset (filled args Value.requestText text).toList = .ok body) :
    t.BodyIsLiteral args charset text := by
  refine ⟨_, body, expand_of_expandBody hmissing htext hexpand, rfl, hbody, ?_⟩
  rintro d rfl hslots
  rw [Draft.setBody, if_neg (by simp [hslots]), hbody]
  rfl

theorem expandBody_of_bodyIsLiteral (htext : t.bodyTemplate = some text)
    (h : t.BodyIsLiteral args charset text) :
    expandBody args charset text =
      orCoding (Charset.encode charset (filled args Value.requestText text).toList) := by
  obtain ⟨r, body, hexpand, hr, hbody, -⟩ := h
  rw [hbody]
  rcases expand_eq_ok_cases hexpand with ⟨hnone, -⟩ | ⟨text', body', hsome, hok, rfl⟩
  · rw [htext] at hnone
    exact nomatch hnone
  · rw [htext] at hsome
    obtain rfl := Option.some.inj hsome
    rw [hok, Option.some.inj hr]
    rfl

/-- A charset that keeps ASCII gives every filled template its literal body. -/
theorem bodyIsLiteral_of_keepsAscii (hcharset : Charset.lookUp charset = .ok c)
    (hkeeps : c.KeepsAscii) (htext : t.bodyTemplate = some text) (hplain : '%' ∉ text.toList)
    (hmissing : t.missing args = [])
    (hwrites : Charset.Writes charset (filled args Value.requestText text).toList) :
    t.BodyIsLiteral args charset text := by
  have hfilled : Placeholder.decoded args.text text.toList =
      filled args Value.requestText text := by
    rw [Placeholder.decoded_of_not_mem hplain, filled, Placeholder.substitute_eq]
    rfl
  have hruns : Placeholder.Writes charset args.text text.toList := by
    rw [filled, Placeholder.toList_substitute] at hwrites
    exact Placeholder.writes_of_filled hcharset hkeeps.ne_rot13 hwrites
  obtain ⟨body, hexpand, hbody⟩ := exists_expandBody hcharset hkeeps
    (covers_bodyTemplate hmissing htext) (Placeholder.hasAsciiEscapes_of_not_mem hplain) hruns
  rw [hfilled] at hbody
  exact bodyIsLiteral_of_expandBody htext hmissing hexpand hbody

/-- Where every argument is empty nothing is quoted, whatever the charset. -/
theorem bodyIsLiteral_of_empty (htext : t.bodyTemplate = some text) (hplain : '%' ∉ text.toList)
    (hmissing : t.missing args = [])
    (hwrites : Charset.Writes charset (filled args Value.requestText text).toList)
    (hempty : ∀ name ∈ Placeholder.occurrences text, args.text name = "") :
    t.BodyIsLiteral args charset text := by
  have hquoted : ∀ name ∈ Placeholder.slots text.toList,
      Percent.quoteIn charset (args.text name) = .ok "" := by
    intro name hname
    rw [hempty name hname]
    rfl
  have hfilled : String.ofList (Placeholder.filled (fun _ => "") text.toList) =
      filled args Value.requestText text := by
    rw [filled, Placeholder.substitute_eq]
    refine congrArg String.ofList (Placeholder.filled_congr fun name hname => ?_)
    exact (hempty name hname).symm
  have hunquoted : Percent.unquoteIn charset
      (String.ofList (Placeholder.filled (fun _ => "") text.toList)) =
      .ok (filled args Value.requestText text) := by
    rw [Percent.unquoteIn, if_neg, hfilled]
    rw [String.toList_ofList]
    intro hmem
    rcases Placeholder.mem_filled hmem with hmem | ⟨name, -, hmem⟩
    · exact hplain hmem
    · exact absurd hmem List.not_mem_nil
  obtain ⟨body, hbody⟩ := hwrites
  refine bodyIsLiteral_of_expandBody htext hmissing ?_ hbody
  rw [expandBody_eq (covers_bodyTemplate hmissing htext) hquoted hunquoted, hbody]
  rfl

/-- A letter in front of a placeholder. -/
def lettered : Template where
  method := "POST"
  bodyTemplate := some "a{x}"

/-- Another letter. -/
def letter : Arguments :=
  .ofList [("x", .text "b")]

/-- Behind a letter each charset that keeps no ASCII reads a quoted letter as something else. -/
theorem exists_ne_of_not_keepsAscii (h : ¬c.KeepsAscii) (hbytes : c ≠ .rot13) :
    ∃ name, Charset.lookUp name = .ok c ∧
      expandBody letter name "a{x}" ≠
        orCoding (Charset.encode name (filled letter Value.requestText "a{x}").toList) := by
  cases c with
  | utf8 => exact absurd (Charset.keepsAscii_iff.2 (Or.inl rfl)) h
  | singleByte table => exact absurd (Charset.keepsAscii_iff.2 (Or.inr ⟨table, rfl⟩)) h
  | rot13 => exact absurd rfl hbytes
  | utf8Marked => exact ⟨"utf-8-sig", by decide, by decide⟩
  | utf16 => exact ⟨"utf-16", by decide, by decide⟩
  | utf16Plain order =>
    cases order with
    | littleEndian => exact ⟨"utf-16-le", by decide, by decide⟩
    | bigEndian => exact ⟨"utf-16-be", by decide, by decide⟩

/-- Among the charsets with bytes, just those that keep ASCII give every body template without `%`
the body that the filled text has as a literal body. If all arguments are empty, every charset
does. -/
theorem literal_iff_keepsAscii (hcharset : Charset.lookUp charset = .ok c) (hbytes : c ≠ .rot13) :
    (c.KeepsAscii ↔ ∀ (t : Template) (args : Arguments) (text : String),
      t.bodyTemplate = some text → '%' ∉ text.toList → t.missing args = [] →
      Charset.Writes charset (filled args Value.requestText text).toList →
      t.BodyIsLiteral args charset text) ∧
    ∀ (t : Template) (args : Arguments) (text : String),
      t.bodyTemplate = some text → '%' ∉ text.toList → t.missing args = [] →
      Charset.Writes charset (filled args Value.requestText text).toList →
      (∀ name ∈ Placeholder.occurrences text, args.text name = "") →
      t.BodyIsLiteral args charset text := by
  refine ⟨⟨fun hkeeps t args text => bodyIsLiteral_of_keepsAscii hcharset hkeeps, fun hall => ?_⟩,
    fun t args text => bodyIsLiteral_of_empty⟩
  refine Decidable.byContradiction fun hkeeps => ?_
  obtain ⟨name, hname, hne⟩ := exists_ne_of_not_keepsAscii hkeeps hbytes
  have hwrites : Charset.Writes charset (filled letter Value.requestText "a{x}").toList :=
    (Charset.writes_iff hcharset hbytes).2 fun ch _ =>
      Charset.has_of_not_keepsAscii hkeeps hbytes ch
  have hliteral := expandBody_of_bodyIsLiteral rfl
    (hall lettered letter "a{x}" rfl (by decide) (by decide) hwrites)
  rw [expandBody_congr hcharset hname hbytes, Charset.encode_congr hcharset hname hbytes]
    at hliteral
  exact hne hliteral

/-- A field of a form. -/
def field : Template where
  method := "POST"
  bodyTemplate := some "name={name}"

/-- A value outside ASCII. -/
def fieldValue : Arguments :=
  .ofList [("name", .text "é")]

theorem missing_field : field.missing fieldValue = [] := by decide

theorem filled_field : filled fieldValue Value.requestText "name={name}" = "name=é" := by
  decide +kernel

theorem literal_field :
    Charset.lookUp "latin-1" = .ok (.singleByte .latin1) ∧
      Charset.singleByte .latin1 ≠ .rot13 ∧
      field.BodyIsLiteral fieldValue "latin-1" "name={name}" := by
  have hcharset : Charset.lookUp "latin-1" = .ok (.singleByte .latin1) := by decide
  have hbytes : Charset.singleByte .latin1 ≠ .rot13 := by decide
  have hwrites : Charset.Writes "latin-1"
      (filled fieldValue Value.requestText "name={name}").toList := by
    rw [filled_field]
    decide
  have h := (literal_iff_keepsAscii hcharset hbytes).1.1 (by decide)
  exact ⟨hcharset, hbytes, h field fieldValue _ rfl (by decide) missing_field hwrites⟩

/-- In UTF-16 two letters in front of the value are read as one character, and so is the last letter
with the first byte of the mark. -/
theorem two_bodies_of_field :
    Charset.lookUp "utf-16" = .ok .utf16 ∧ '%' ∉ "name={name}".toList ∧
      field.missing fieldValue = [] ∧
      (∃ r, field.expand fieldValue "utf-16" = .ok r ∧
        r.body = some [0xFF, 0xFE, 0x6E, 0x61, 0x6D, 0x65, 0x3D, 0xFF, 0xFE, 0xE9, 0xFD, 0xFF]) ∧
      Charset.encode "utf-16" (filled fieldValue Value.requestText "name={name}").toList =
        .ok [0xFF, 0xFE, 0x6E, 0, 0x61, 0, 0x6D, 0, 0x65, 0, 0x3D, 0, 0xE9, 0] ∧
      ¬field.BodyIsLiteral fieldValue "utf-16" "name={name}" := by
  have hexpand : expandBody fieldValue "utf-16" "name={name}" =
      .ok [0xFF, 0xFE, 0x6E, 0x61, 0x6D, 0x65, 0x3D, 0xFF, 0xFE, 0xE9, 0xFD, 0xFF] := by
    rfl
  have hliteral : Charset.encode "utf-16"
      (filled fieldValue Value.requestText "name={name}").toList =
      .ok [0xFF, 0xFE, 0x6E, 0, 0x61, 0, 0x6D, 0, 0x65, 0, 0x3D, 0, 0xE9, 0] := by
    rw [filled_field]
    rfl
  refine ⟨by decide, by decide, missing_field,
    ⟨_, expand_of_expandBody missing_field rfl hexpand, rfl⟩, hliteral, fun h => ?_⟩
  have hsame := expandBody_of_bodyIsLiteral rfl h
  rw [hexpand, hliteral] at hsame
  exact absurd hsame (by decide)

end Template

end HttpInterface
