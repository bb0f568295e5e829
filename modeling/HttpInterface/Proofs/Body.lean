import HttpInterface.Proofs.Expansion
import HttpInterface.Proofs.Percent.Ascii
import HttpInterface.Proofs.Placeholder.Decoded

/-!
# `HttpInterface.Proofs.Body`: what a body template gives

A body template is filled with quoted texts, and then it is unquoted as a whole, run of ASCII
characters by run, and encoded. `unquoteIn_filled` says for the charsets that keep ASCII that this
gives each argument as it is and each literal with its escapes decoded, if these escapes are
complete and stand for ASCII characters. Behind such a literal nothing is cut off. In
UTF-8 the quoted bytes of an argument are whole characters, and a table reads byte by byte.

`restored_of_expand` is the body that a template gets. It holds the texts of the arguments, whatever
they look like.

On the way to its bytes a body is a text: the body template, filled with quoted arguments, is
unquoted as a whole (`bodyText`). Where every placeholder has an argument, the body is this text in
the charset (`expandBody_eq_bodyText`). The text is there if the charset can write the arguments
one by one (`exists_bodyText_iff`), but it may hold characters that the charset lacks: a literal of
the template may bring them, or the mark that stands for bytes that are no character.
-/

set_option autoImplicit false

namespace HttpInterface

/-- The text of the argument of a name. -/
def Arguments.text (args : Arguments) (name : String) : String :=
  (args.value name).requestText

namespace Placeholder

/-- In a literal every `%` begins a complete escape of an ASCII character. -/
def Run.HasAsciiEscapes : Run → Prop
  | .literal cs => Percent.HasAsciiEscapes cs
  | .slot _ => True

instance (run : Run) : Decidable run.HasAsciiEscapes :=
  match run with
  | .literal cs => inferInstanceAs (Decidable (Percent.HasAsciiEscapes cs))
  | .slot _ => isTrue trivial

/-- In every literal of the text, `%` only begins complete escapes of ASCII characters. -/
def HasAsciiEscapes (cs : List Char) : Prop :=
  ∀ run ∈ runs cs, run.HasAsciiEscapes

instance (cs : List Char) : Decidable (HasAsciiEscapes cs) :=
  inferInstanceAs (Decidable (∀ run ∈ runs cs, run.HasAsciiEscapes))

/-- The charset of the name has bytes for the literals of a text, and for the text `f name` of
each of its placeholders. -/
def Writes (charset : String) (f : String → String) (cs : List Char) : Prop :=
  ∀ run ∈ runs cs, Charset.Writes charset (run.filled f)

instance (charset : String) (f : String → String) (cs : List Char) :
    Decidable (Writes charset f cs) :=
  inferInstanceAs (Decidable (∀ run ∈ runs cs, Charset.Writes charset (run.filled f)))

variable {charset : String} {c : Charset} {cs : List Char} {f : String → String}

theorem HasAsciiEscapes.separable (h : HasAsciiEscapes cs) : Separable cs := by
  intro run hrun
  cases run with
  | slot name => trivial
  | literal literal =>
    have hliteral : Percent.HasAsciiEscapes literal := h _ (List.dropLast_subset _ hrun)
    exact hliteral.isClosed

/-- Without `%` there are no escapes. -/
theorem hasAsciiEscapes_of_not_mem (h : '%' ∉ cs) : HasAsciiEscapes cs := by
  intro run hrun
  cases run with
  | slot name => trivial
  | literal literal =>
    exact Percent.hasAsciiEscapes_of_not_mem fun hmem => h (mem_of_literal_mem_runs hrun hmem)

theorem decoded_literal {literal : List Char} (h : Percent.HasAsciiEscapes literal) :
    Run.decoded f (.literal literal) = Percent.plain literal := by
  rw [Run.decoded, Percent.unquote_eq_plain h, String.toList_ofList]

/-! ### Reading what was filled -/

/-- A table reads a text that is filled with quoted texts as what it means. -/
theorem map_readIn_filled {table : Charset.SingleByte} (hescapes : HasAsciiEscapes cs)
    (hsome : ∀ name ∈ slots cs, ∀ ch ∈ (f name).toList, (table.byte? ch).isSome = true) :
    (Percent.tokens (filled (fun name => Percent.quoteBy table (f name)) cs)).map
      (Percent.Token.readIn table) = (decoded f cs).toList := by
  simp only [← slot_mem_runs] at hsome
  rw [HasAsciiEscapes] at hescapes
  rw [← flatMap_filled_runs, decoded, String.toList_ofList]
  -- Run by run. What follows a run does not change how the run is read.
  generalize runs cs = all at hescapes hsome
  induction all with
  | nil => rfl
  | cons run rest ih =>
    have hrest := ih (fun run hmem => hescapes run (List.mem_cons_of_mem _ hmem))
      fun name hmem => hsome name (List.mem_cons_of_mem _ hmem)
    rw [List.flatMap_cons, List.flatMap_cons, ← hrest]
    cases run with
    | slot name => exact Percent.map_readIn_quoteBy_append (hsome name List.mem_cons_self) _
    | literal literal =>
      have hliteral : Percent.HasAsciiEscapes literal := hescapes _ List.mem_cons_self
      have hcut := Percent.not_goesOnAsEscape_of_endsInEscape hliteral.endsInEscape
      rw [decoded_literal hliteral, Run.filled, Percent.tokens_append (hcut _), List.map_append,
        Percent.map_readIn_tokens hliteral]

/-- In a charset that keeps ASCII a text can be filled with quoted texts, and it is then unquoted
to what it means. -/
theorem unquoteIn_filled (hcharset : Charset.lookUp charset = .ok c) (hkeeps : c.KeepsAscii)
    (hescapes : HasAsciiEscapes cs) (hwrites : Writes charset f cs) :
    ∃ quoted, (∀ name ∈ slots cs, Percent.quoteIn charset (f name) = .ok (quoted name)) ∧
      Percent.unquoteIn charset (String.ofList (filled quoted cs)) = .ok (decoded f cs) := by
  rcases Charset.keepsAscii_iff.1 hkeeps with rfl | ⟨table, rfl⟩
  · refine ⟨fun name => Percent.quote (f name), fun name _ => Percent.quoteIn_utf8 hcharset _, ?_⟩
    rw [Percent.unquoteIn_utf8 hcharset, ← Percent.unquote_eq, unquote_filled hescapes.separable]
  · have hsome : ∀ name ∈ slots cs, ∀ ch ∈ (f name).toList, (table.byte? ch).isSome = true :=
      fun name hname => (Charset.writes_iff hcharset hkeeps.ne_rot13).1
        (hwrites _ (slot_mem_runs.2 hname))
    refine ⟨fun name => Percent.quoteBy table (f name),
      fun name hname => Percent.quoteIn_singleByte hcharset (hsome name hname), ?_⟩
    rw [Percent.unquoteIn_singleByte hcharset, String.toList_ofList,
      map_readIn_filled hescapes hsome, String.ofList_toList]

/-- The parts of a filled text have bytes if the whole has. -/
theorem writes_of_filled (hcharset : Charset.lookUp charset = .ok c) (hbytes : c ≠ .rot13)
    (hwrites : Charset.Writes charset (filled f cs)) : Writes charset f cs := by
  intro run hrun
  rw [Charset.writes_iff hcharset hbytes] at hwrites ⊢
  intro ch hch
  refine hwrites ch ?_
  rw [← flatMap_filled_runs]
  exact List.mem_flatMap.2 ⟨run, hrun, hch⟩

/-- What a text means has bytes if its parts have. -/
theorem writes_decoded (hcharset : Charset.lookUp charset = .ok c) (hkeeps : c.KeepsAscii)
    (hescapes : HasAsciiEscapes cs) (hwrites : Writes charset f cs) :
    Charset.Writes charset (decoded f cs).toList := by
  have hwrite : ∀ {text : List Char}, Charset.Writes charset text ↔ ∀ ch ∈ text, c.Has ch :=
    Charset.writes_iff hcharset hkeeps.ne_rot13
  rw [hwrite, decoded, String.toList_ofList]
  intro ch hch
  obtain ⟨run, hrun, hch⟩ := List.mem_flatMap.1 hch
  have hhas := hwrite.1 (hwrites run hrun)
  cases run with
  | slot name => exact hhas ch hch
  | literal literal =>
    have hliteral : Percent.HasAsciiEscapes literal := hescapes _ hrun
    rw [decoded_literal hliteral] at hch
    -- A character of the literal, or one that an escape stands for.
    obtain ⟨token, htoken, rfl⟩ := List.mem_map.1 hch
    cases token with
    | char d => exact hhas d (Percent.mem_of_char_mem_tokens htoken)
    | byte b =>
      refine hkeeps.has ?_
      rw [Percent.Token.plain, Percent.toNat_charOfByte]
      exact UInt8.lt_iff_toNat_lt.1 (hliteral _ htoken)

end Placeholder

namespace Template

variable {t : Template} {args : Arguments} {charset text : String}

/-! ### The body -/

/-- A body template whose arguments can be quoted is filled with them, unquoted and encoded. -/
theorem expandBody_eq (hcovers : args.Covers text) {quoted : String → String}
    (hquoted : ∀ name ∈ Placeholder.slots text.toList,
      Percent.quoteIn charset (args.text name) = .ok (quoted name))
    {decoded : String}
    (hdecoded : Percent.unquoteIn charset
      (String.ofList (Placeholder.filled quoted text.toList)) = .ok decoded) :
    expandBody args charset text = orCoding (Charset.encode charset decoded.toList) := by
  have hfilled : Placeholder.substituteM (fun name => do
      orCoding (Percent.quoteIn charset (← args.find name).requestText)) text =
      .ok (Placeholder.substitute quoted text) := by
    refine Placeholder.substituteM_eq_ok fun name hname => ?_
    rw [Arguments.find_eq_ok (hcovers name hname)]
    show orCoding (Percent.quoteIn charset (args.text name)) = _
    rw [hquoted name hname]
    rfl
  rw [expandBody, hfilled, Placeholder.substitute_eq]
  simp only [bind, Except.bind, hdecoded]
  rfl

/-- A template gets the body that its body template gives. -/
theorem expand_of_expandBody (hmissing : t.missing args = []) (htext : t.bodyTemplate = some text)
    {body : Bytes} (hbody : expandBody args charset text = .ok body) :
    t.expand args charset = .ok (withBody (t.filledRequest args) body) := by
  rw [expand_eq hmissing, htext]
  dsimp only
  rw [hbody]
  rfl

/-- In a charset that keeps ASCII the body is what the body template means. -/
theorem exists_expandBody {c : Charset} (hcharset : Charset.lookUp charset = .ok c)
    (hkeeps : c.KeepsAscii) (hcovers : args.Covers text)
    (hescapes : Placeholder.HasAsciiEscapes text.toList)
    (hwrites : Placeholder.Writes charset args.text text.toList) :
    ∃ body, expandBody args charset text = .ok body ∧
      Charset.encode charset (Placeholder.decoded args.text text.toList).toList = .ok body := by
  obtain ⟨quoted, hquoted, hdecoded⟩ :=
    Placeholder.unquoteIn_filled hcharset hkeeps hescapes hwrites
  obtain ⟨body, hbody⟩ := Placeholder.writes_decoded hcharset hkeeps hescapes hwrites
  refine ⟨body, ?_, hbody⟩
  rw [expandBody_eq hcovers hquoted hdecoded, hbody]
  rfl

/-- Take a charset that keeps ASCII, and a body template whose literals and arguments have bytes in
it, with escapes in the literals that are complete and stand for ASCII characters. The body is
then the literals with their escapes decoded and the texts of the arguments as they are, in the
order of the template, in this charset. -/
theorem restored_of_expand {c : Charset} (hcharset : Charset.lookUp charset = .ok c)
    (hkeeps : c.KeepsAscii) (htext : t.bodyTemplate = some text) (hmissing : t.missing args = [])
    (hescapes : Placeholder.HasAsciiEscapes text.toList)
    (hwrites : Placeholder.Writes charset args.text text.toList) :
    ∃ r body, t.expand args charset = .ok r ∧ r.body = some body ∧
      Charset.encode charset (Placeholder.decoded args.text text.toList).toList = .ok body := by
  obtain ⟨body, hexpand, hbody⟩ := exists_expandBody hcharset hkeeps
    (covers_bodyTemplate hmissing htext) hescapes hwrites
  exact ⟨_, body, expand_of_expandBody hmissing htext hexpand, rfl, hbody⟩

/-- A greeting with an escape and a character outside ASCII in front of the name. -/
def greeting : Template where
  method := "POST"
  bodyTemplate := some "Olé%2C {name}!"

/-- A name that looks like an escape and like a placeholder. -/
def greeted : Arguments :=
  .ofList [("name", .text "50%41{name}ÿ")]

theorem restored_greeting :
    Charset.lookUp "latin-1" = .ok (.singleByte .latin1) ∧
      greeting.bodyTemplate = some "Olé%2C {name}!" ∧ greeting.missing greeted = [] ∧
      Placeholder.HasAsciiEscapes "Olé%2C {name}!".toList ∧
      Placeholder.Writes "latin-1" greeted.text "Olé%2C {name}!".toList ∧
      ∃ r body, greeting.expand greeted "latin-1" = .ok r ∧ r.body = some body ∧
        Charset.encode "latin-1" "Olé, 50%41{name}ÿ!".toList = .ok body := by
  have hcharset : Charset.lookUp "latin-1" = .ok (.singleByte .latin1) := by decide
  have hmissing : greeting.missing greeted = [] := by decide
  have hescapes : Placeholder.HasAsciiEscapes "Olé%2C {name}!".toList := by decide +kernel
  have hwrites : Placeholder.Writes "latin-1" greeted.text "Olé%2C {name}!".toList := by
    decide +kernel
  have hmeant : Placeholder.decoded greeted.text "Olé%2C {name}!".toList =
      "Olé, 50%41{name}ÿ!" := by
    decide +kernel
  have h := restored_of_expand hcharset (by decide) rfl hmissing hescapes hwrites
  rw [hmeant] at h
  exact ⟨hcharset, rfl, hmissing, hescapes, hwrites, h⟩

end Template

/-! ### The text of a body -/

namespace Percent

variable {charset : String} {c : Charset}

/-- A text can be quoted in a charset if it can be written in it. -/
theorem exists_quoteIn_iff (hcharset : Charset.lookUp charset = .ok c) (hbytes : c ≠ .rot13)
    (text : String) :
    (∃ quoted, quoteIn charset text = .ok quoted) ↔ Charset.Writes charset text.toList := by
  rw [quoteIn]
  split
  · -- The empty text is not even encoded, but every charset with bytes can write it.
    next hempty =>
    rw [hempty, Charset.writes_iff hcharset hbytes]
    simp
  · constructor
    · rintro ⟨quoted, h⟩
      cases hencode : Charset.encode charset text.toList with
      | ok bytes => exact ⟨bytes, hencode⟩
      | error e =>
        rw [hencode] at h
        cases h
    · rintro ⟨bytes, hencode⟩
      rw [hencode]
      exact ⟨_, rfl⟩

/-- Every text can be unquoted in a charset: bytes that are no character become a mark. -/
theorem exists_unquoteIn (hcharset : Charset.lookUp charset = .ok c) (hbytes : c ≠ .rot13)
    (text : String) : ∃ unquoted, unquoteIn charset text = .ok unquoted := by
  have hsegment : ∀ s : Segment, ∃ chars, s.unquoted charset = .ok chars := by
    intro s
    cases s with
    | other ch => exact ⟨[ch], rfl⟩
    | ascii run =>
      rw [Segment.unquoted, Charset.decode_eq hcharset]
      cases c with
      | rot13 => exact absurd rfl hbytes
      | _ => exact ⟨_, rfl⟩
  rw [unquoteIn]
  split
  · cases hparts : (segments text.toList).mapM (Segment.unquoted charset) with
    | ok parts => exact ⟨_, rfl⟩
    | error e =>
      obtain ⟨s, -, he⟩ := exists_of_mapM_eq_error hparts
      obtain ⟨chars, hchars⟩ := hsegment s
      cases he.symm.trans hchars
  · exact ⟨_, rfl⟩

end Percent

namespace Template

variable {args : Arguments} {charset text : String}

/-- The text that a body template is decoded to, filled with the quoted texts of the arguments. -/
def bodyText (args : Arguments) (charset text : String) : Except ExpansionError String := do
  let filled ← Placeholder.substituteM (fun name => do
    orCoding (Percent.quoteIn charset (← args.find name).requestText)) text
  orCoding (Percent.unquoteIn charset filled)

/-- The body is the text of the body template in the charset. -/
theorem expandBody_eq_bodyText (args : Arguments) (charset text : String) :
    expandBody args charset text =
      bodyText args charset text >>= fun decoded =>
        orCoding (Charset.encode charset decoded.toList) := by
  rw [bodyText, bind_assoc]
  rfl

theorem exists_orCoding_iff {α : Type} {x : Except CodingError α} :
    (∃ a, orCoding x = .ok a) ↔ ∃ a, x = .ok a :=
  exists_congr fun _ => mapError_eq_ok

/-- There is a body if the body template has a text that the charset can write. -/
theorem exists_expandBody_iff :
    (∃ body, expandBody args charset text = .ok body) ↔
      ∃ decoded, bodyText args charset text = .ok decoded ∧
        Charset.Writes charset decoded.toList := by
  rw [expandBody_eq_bodyText]
  constructor
  · rintro ⟨body, h⟩
    obtain ⟨decoded, hdecoded, hbody⟩ := bind_eq_ok.1 h
    exact ⟨decoded, hdecoded, body, mapError_eq_ok.1 hbody⟩
  · rintro ⟨decoded, hdecoded, body, hbody⟩
    exact ⟨body, bind_eq_ok.2 ⟨decoded, hdecoded, mapError_eq_ok.2 hbody⟩⟩

/-- The body template has a text if the charset can write the arguments one by one. -/
theorem exists_bodyText_iff (hcovers : args.Covers text) {c : Charset}
    (hcharset : Charset.lookUp charset = .ok c) (hbytes : c ≠ .rot13) :
    (∃ decoded, bodyText args charset text = .ok decoded) ↔
      ∀ name ∈ Placeholder.occurrences text, Charset.Writes charset (args.text name).toList := by
  have hquote : ∀ name ∈ Placeholder.occurrences text,
      ((∃ quoted, (do orCoding (Percent.quoteIn charset (← args.find name).requestText)) =
        Except.ok quoted) ↔ Charset.Writes charset (args.text name).toList) := by
    intro name hname
    rw [Arguments.find_eq_ok (hcovers name hname)]
    exact exists_orCoding_iff.trans (Percent.exists_quoteIn_iff hcharset hbytes _)
  -- Unquoting never fails, so the arguments decide.
  rw [← forall₂_congr hquote, ← Placeholder.exists_substituteM_iff]
  constructor
  · rintro ⟨decoded, h⟩
    obtain ⟨filled, hfilled, -⟩ := bind_eq_ok.1 h
    exact ⟨filled, hfilled⟩
  · rintro ⟨filled, hfilled⟩
    obtain ⟨decoded, hdecoded⟩ :=
      exists_orCoding_iff.2 (Percent.exists_unquoteIn hcharset hbytes filled)
    exact ⟨decoded, bind_eq_ok.2 ⟨filled, hfilled, hdecoded⟩⟩

end Template

end HttpInterface
