import HttpInterface.Proofs.List
import HttpInterface.Proofs.Percent

/-!
# `HttpInterface.Proofs.Percent.Unquote`: unquoting as reading bytes

Unquoting reads run by run. `bytesOfText` is the whole text as bytes, with every escape as its
byte and every other character in UTF-8, and `unquote_eq` says that unquoting is reading these
bytes: a run ends where a character outside ASCII begins, and there the reader starts afresh.

So unquoting undoes quoting (`unquote_quote`), and more: a quoted text is read back whatever
follows it (`decode_quote_append`). Another text may be cut and read in two parts if the first one
ends neither within an escape nor within a character (`IsClosed`).
-/

set_option autoImplicit false

namespace HttpInterface.Percent

/-- The bytes of a text: those of its escapes, and other characters in UTF-8. -/
def bytesOfText : List Char → Bytes
  | '%' :: high :: low :: rest =>
    match byteOfDigits? high low with
    | some b => b :: bytesOfText rest
    | none => UInt8.ofNat '%'.toNat :: bytesOfText (high :: low :: rest)
  | c :: rest => String.utf8EncodeChar c ++ bytesOfText rest
  | [] => []

/-- The bytes of a token: an escape is one byte, and a character is written in UTF-8. -/
def Token.bytes : Token → Bytes
  | .char c => String.utf8EncodeChar c
  | .byte b => [b]

/-! ### Step by step -/

/-- A text is read token by token. -/
theorem bytesOfText_eq (cs : List Char) : bytesOfText cs = (tokens cs).flatMap Token.bytes := by
  induction cs using bytesOfText.induct with
  | case1 high low rest b hb ih =>
    rw [bytesOfText, hb, tokens_digits hb, ih, List.flatMap_cons]
    rfl
  | case2 high low rest hnone ih =>
    rw [bytesOfText, hnone, tokens, hnone, List.flatMap_cons, ← ih]
    rfl
  | case3 c rest hno ih =>
    rw [bytesOfText, tokens, List.flatMap_cons, ← ih]
    · rfl
    · exact hno
    · exact hno
  | case4 => rfl

/-- A character that begins no escape is read as itself. -/
theorem bytesOfText_cons {c : Char} {cs : List Char} (h : c = '%' → startsWithDigits cs = false) :
    bytesOfText (c :: cs) = String.utf8EncodeChar c ++ bytesOfText cs := by
  rw [bytesOfText_eq, tokens_cons h, List.flatMap_cons, bytesOfText_eq]
  rfl

theorem bytesOfText_digits {high low : Char} {b : UInt8} (h : byteOfDigits? high low = some b)
    (cs : List Char) : bytesOfText ('%' :: high :: low :: cs) = b :: bytesOfText cs := by
  rw [bytesOfText, h]

/-- Two texts are read one after the other if no escape begins in the first and ends in the
second. -/
theorem bytesOfText_append {a b : List Char} (h : ¬GoesOnAsEscape a b) :
    bytesOfText (a ++ b) = bytesOfText a ++ bytesOfText b := by
  rw [bytesOfText_eq, tokens_append h, List.flatMap_append, bytesOfText_eq, bytesOfText_eq]

/-- Without escapes a text is read as itself. -/
theorem bytesOfText_of_not_mem {cs : List Char} (h : '%' ∉ cs) :
    bytesOfText cs = Charset.Utf8.encode cs := by
  induction cs with
  | nil => rfl
  | cons c cs ih =>
    rw [List.mem_cons, not_or] at h
    rw [bytesOfText_cons fun hc => absurd hc.symm h.1, ih h.2]
    rfl

/-- A run of ASCII characters has the bytes that unquoting gives it. -/
theorem bytesOfText_of_ascii {cs : List Char} (h : ∀ c ∈ cs, c.toNat < 0x80) :
    bytesOfText cs = bytesOfRun cs := by
  induction cs using bytesOfRun.induct with
  | case1 high low rest b hb ih =>
    rw [bytesOfText_digits hb, bytesOfRun, hb, ih fun c hc => h c (by simp [hc])]
  | case2 high low rest hnone ih =>
    rw [bytesOfText, hnone, bytesOfRun, hnone, ih fun c hc => h c (List.mem_cons_of_mem _ hc)]
  | case3 c rest hno ih =>
    rw [bytesOfText, bytesOfRun, ih fun d hd => h d (List.mem_cons_of_mem _ hd),
      Charset.Utf8.utf8EncodeChar_of_ascii (h c List.mem_cons_self)]
    · rfl
    · exact hno
    · exact hno
  | case4 => rfl

/-! ### Segment by segment -/

/-- A text that is ASCII throughout is one run. -/
theorem segments_of_ascii {cs : List Char} (hascii : ∀ c ∈ cs, c.toNat < 0x80) (hne : cs ≠ []) :
    segments cs = [.ascii cs] := by
  induction cs with
  | nil => exact absurd rfl hne
  | cons c r ih =>
    have hc : c.toNat < 0x80 := hascii c List.mem_cons_self
    rw [show segments (c :: r) = Segment.attach c (segments r) from rfl]
    cases r with
    | nil => exact if_pos hc
    | cons d r =>
      rw [ih (fun e he => hascii e (List.mem_cons_of_mem _ he)) (List.cons_ne_nil d r),
        Segment.attach, if_pos hc]

theorem Segment.attach_append (d c : Char) (front behind : List Segment) :
    attach d (front ++ .other c :: behind) = attach d front ++ .other c :: behind := by
  unfold attach
  split
  · match front with
    | [] => rfl
    | .ascii _ :: _ => rfl
    | .other _ :: _ => rfl
  · rfl

/-- A run ends in front of a character outside ASCII. -/
theorem segments_append {c : Char} (hc : ¬c.toNat < 0x80) (a b : List Char) :
    segments (a ++ c :: b) = segments a ++ .other c :: segments b := by
  induction a with
  | nil => exact if_neg hc
  | cons d a ih =>
    rw [List.cons_append, show segments (d :: (a ++ c :: b)) =
      Segment.attach d (segments (a ++ c :: b)) from rfl, ih, Segment.attach_append]
    rfl

/-- A text is read segment by segment if a run of ASCII characters is read like a text of its own,
and what is in front of another character and behind it too. -/
theorem flatMap_segments {read : Segment → List Char} (whole : List Char → List Char)
    (hnil : whole [] = [])
    (hrun : ∀ run, (∀ c ∈ run, c.toNat < 0x80) → read (.ascii run) = whole run)
    (hother : ∀ a c b, ¬c.toNat < 0x80 →
      whole (a ++ c :: b) = whole a ++ (read (.other c) ++ whole b))
    (cs : List Char) : (segments cs).flatMap read = whole cs := by
  -- By the length: the induction goes on at both sides of a character outside ASCII.
  induction hlength : cs.length using Nat.strongRecOn generalizing cs with
  | ind n ih =>
    by_cases hexists : ∃ c ∈ cs, ¬c.toNat < 0x80
    · obtain ⟨c, hmem, hc⟩ := hexists
      obtain ⟨a, b, rfl⟩ := List.append_of_mem hmem
      rw [List.length_append, List.length_cons] at hlength
      rw [segments_append hc, List.flatMap_append, List.flatMap_cons, hother a c b hc,
        ih a.length (by omega) a rfl, ih b.length (by omega) b rfl]
    · have hascii : ∀ c ∈ cs, c.toNat < 0x80 := fun c hc =>
        Decidable.byContradiction fun hlt => hexists ⟨c, hc, hlt⟩
      cases cs with
      | nil => exact hnil.symm
      | cons c cs =>
        rw [segments_of_ascii hascii (List.cons_ne_nil c cs), List.flatMap_singleton]
        exact hrun (c :: cs) hascii

/-- Unquoting reads the segments of a text, also where it leaves a text as it is. -/
theorem unquoteIn_eq {charset : String} {read : Segment → List Char}
    (hread : ∀ s : Segment, s.unquoted charset = .ok (read s)) {text : String}
    (hplain : '%' ∉ text.toList → (segments text.toList).flatMap read = text.toList) :
    unquoteIn charset text = .ok (String.ofList ((segments text.toList).flatMap read)) := by
  rw [unquoteIn]
  split
  · rw [mapM_eq_ok fun s _ => hread s, List.flatMap_def]
    rfl
  · next hpercent => rw [hplain hpercent, String.ofList_toList]

theorem hexDigit?_of_not_ascii {c : Char} (hc : ¬c.toNat < 0x80) : Text.hexDigit? c = none := by
  have hle : ∀ d : Char, d.toNat < 0x80 → ¬c ≤ d := by
    intro d hd hcd
    exact hc (Nat.lt_of_le_of_lt (Char.le_def.1 hcd) hd)
  rw [Text.hexDigit?, if_neg fun h => hle '9' (by decide) h.2,
    if_neg fun h => hle 'f' (by decide) h.2, if_neg fun h => hle 'F' (by decide) h.2]

/-- A character outside ASCII is no part of an escape, so a text has its tokens on both sides. -/
theorem tokens_append_cons {c : Char} (hc : ¬c.toNat < 0x80) (a b : List Char) :
    tokens (a ++ c :: b) = tokens a ++ .char c :: tokens b := by
  have hpercent : c = '%' → startsWithDigits b = false := by
    rintro rfl
    exact absurd (by decide) hc
  have hdigit : ∀ d, (c :: b).head? = some d → Text.hexDigit? d = none := fun d hd =>
    Option.some.inj hd ▸ hexDigit?_of_not_ascii hc
  rw [tokens_append (not_goesOnAsEscape_of_head? hdigit a), tokens_cons hpercent]

/-! ### Reading UTF-8 -/

/-- What a segment is read as. -/
def Segment.read : Segment → List Char
  | .ascii run => Charset.Utf8.decode (bytesOfRun run)
  | .other c => [c]

theorem Segment.unquoted_eq {charset : String} (h : Charset.lookUp charset = .ok .utf8)
    (s : Segment) : s.unquoted charset = .ok s.read := by
  cases s with
  | ascii run =>
    rw [unquoted, Charset.decode, h]
    rfl
  | other c => rfl

/-- The segments of a text are read as its bytes. -/
theorem flatMap_read_segments (cs : List Char) :
    (segments cs).flatMap Segment.read = Charset.Utf8.decode (bytesOfText cs) := by
  refine flatMap_segments (fun cs => Charset.Utf8.decode (bytesOfText cs)) rfl ?_ ?_ cs
  · intro run hascii
    rw [Segment.read, bytesOfText_of_ascii hascii]
  · intro a c b hc
    rw [bytesOfText_eq, tokens_append_cons hc, List.flatMap_append, List.flatMap_cons,
      ← bytesOfText_eq, ← bytesOfText_eq, Token.bytes, Charset.Utf8.decode_append_encodeChar]
    rfl

/-- Under each name of UTF-8 unquoting a text is reading its bytes. -/
theorem unquoteIn_utf8 {charset : String} (h : Charset.lookUp charset = .ok .utf8) (text : String) :
    unquoteIn charset text =
      .ok (String.ofList (Charset.Utf8.decode (bytesOfText text.toList))) := by
  rw [← flatMap_read_segments]
  refine unquoteIn_eq (Segment.unquoted_eq h) fun hpercent => ?_
  rw [flatMap_read_segments, bytesOfText_of_not_mem hpercent, Charset.Utf8.decode_encode]

/-- Unquoting a text is reading its bytes. -/
theorem unquote_eq (text : String) :
    unquote text = String.ofList (Charset.Utf8.decode (bytesOfText text.toList)) := by
  rw [unquote, unquoteIn_utf8 rfl]
  rfl

/-! ### Quoted text -/

/-- Under each name of UTF-8 a text is quoted alike. -/
theorem quoteIn_utf8 {charset : String} (h : Charset.lookUp charset = .ok .utf8) (text : String) :
    quoteIn charset text = .ok (quote text) := by
  rw [quoteIn, quote]
  split
  · next hempty => rw [hempty]; rfl
  · rw [Charset.encode, h]
    rfl

theorem bytesOfText_escape_append (b : UInt8) (rest : List Char) :
    bytesOfText (escape b ++ rest) = b :: bytesOfText rest :=
  bytesOfText_digits (byteOfDigits?_upperHexDigit b) rest

/-- Bytes that are written as escapes are read as themselves, whatever follows. -/
theorem bytesOfText_flatMap_escape_append (bytes : Bytes) (rest : List Char) :
    bytesOfText (bytes.flatMap escape ++ rest) = bytes ++ bytesOfText rest := by
  induction bytes with
  | nil => rfl
  | cons b bytes ih =>
    rw [List.flatMap_cons, List.append_assoc, bytesOfText_escape_append, ih, List.cons_append]

theorem bytesOfText_quoteByte_append (b : UInt8) (rest : List Char) :
    bytesOfText (quoteByte b ++ rest) = b :: bytesOfText rest := by
  rw [bytesOfText_eq, tokens_quoteByte_append, List.flatMap_cons, ← bytesOfText_eq]
  split
  · next hkept =>
    rw [Token.bytes, Charset.Utf8.utf8EncodeChar_of_ascii (toNat_lt_of_isUnreserved hkept),
      toNat_charOfByte, UInt8.ofNat_toNat]
    rfl
  · rfl

/-- A quoted text is read as itself, whatever follows. -/
theorem bytesOfText_quote_append (text : String) (rest : List Char) :
    bytesOfText ((quote text).toList ++ rest) =
      Charset.Utf8.encode text.toList ++ bytesOfText rest := by
  rw [quote, String.toList_ofList]
  induction Charset.Utf8.encode text.toList with
  | nil => rfl
  | cons b bytes ih =>
    rw [quoteBytes, List.flatMap_cons, ← quoteBytes, List.append_assoc,
      bytesOfText_quoteByte_append, ih, List.cons_append]

/-- What follows the text neither goes on with an escape nor with a character of it. -/
structure IsClosed (cs : List Char) : Prop where
  escape : endsInEscape cs = false
  char : Charset.Utf8.EndsWhole (bytesOfText cs)

instance (cs : List Char) : Decidable (IsClosed cs) :=
  decidable_of_iff (endsInEscape cs = false ∧ Charset.Utf8.EndsWhole (bytesOfText cs))
    ⟨fun h => ⟨h.1, h.2⟩, fun h => ⟨h.escape, h.char⟩⟩

/-- A text without escapes is closed. -/
theorem isClosed_of_not_mem {cs : List Char} (h : '%' ∉ cs) : IsClosed cs where
  escape := endsInEscape_of_not_mem h
  char := by
    rw [bytesOfText_of_not_mem h, Charset.Utf8.EndsWhole, Charset.Utf8.run_encode]

/-- Behind a closed text the reader starts afresh. -/
theorem IsClosed.decode_append {a : List Char} (h : IsClosed a) (b : List Char) :
    Charset.Utf8.decode (bytesOfText (a ++ b)) =
      Charset.Utf8.decode (bytesOfText a) ++ Charset.Utf8.decode (bytesOfText b) := by
  rw [bytesOfText_append (not_goesOnAsEscape_of_endsInEscape h.escape b),
    Charset.Utf8.decode_append h.char]

/-- A quoted text is read back, whatever follows. -/
theorem decode_quote_append (text : String) (rest : List Char) :
    Charset.Utf8.decode (bytesOfText ((quote text).toList ++ rest)) =
      text.toList ++ Charset.Utf8.decode (bytesOfText rest) := by
  rw [bytesOfText_quote_append, Charset.Utf8.decode_encode_append]

end HttpInterface.Percent
