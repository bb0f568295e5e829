import HttpInterface.Proofs.Charset
import HttpInterface.Proofs.Percent.Unquote

/-!
# `HttpInterface.Proofs.Percent.Ascii`: escapes of ASCII characters

If all escapes of a text stand for ASCII characters, what the text means (`plain`) does not depend
on the charset, as long as the charset keeps ASCII: UTF-8 and each table read the text alike
(`unquote_eq_plain`, `map_readIn_tokens`), and no escape or character of it goes on with
what follows (`HasAsciiEscapes.isClosed`).

A table reads token by token (`unquoteIn_singleByte`), so it reads the quoted bytes of a text as
the text, whatever follows (`map_readIn_quoteBytes_append`).
-/

set_option autoImplicit false

namespace HttpInterface.Percent

/-! ### What the escapes stand for -/

/-- The token is an escape of an ASCII character, or a character other than `%`. -/
def Token.IsAscii : Token → Prop
  | .char c => c ≠ '%'
  | .byte b => b < 0x80

instance (t : Token) : Decidable t.IsAscii :=
  match t with
  | .char c => inferInstanceAs (Decidable (c ≠ '%'))
  | .byte b => inferInstanceAs (Decidable (b < 0x80))

/-- Every `%` of the text begins a complete escape of an ASCII character. -/
def HasAsciiEscapes (cs : List Char) : Prop :=
  ∀ t ∈ tokens cs, t.IsAscii

instance (cs : List Char) : Decidable (HasAsciiEscapes cs) :=
  inferInstanceAs (Decidable (∀ t ∈ tokens cs, t.IsAscii))

/-- The character that a token stands for: an escape stands for the one with the number of its
byte. -/
def Token.plain : Token → Char
  | .char c => c
  | .byte b => Char.ofNat b.toNat

/-- The text that the escapes of a text stand for. -/
def plain (cs : List Char) : List Char :=
  (tokens cs).map Token.plain

/-- A character outside of escapes is one of the text. -/
theorem mem_of_char_mem_tokens {c : Char} {cs : List Char} (h : .char c ∈ tokens cs) : c ∈ cs := by
  induction cs using text_induction with
  | nil => exact absurd h List.not_mem_nil
  | char d cs hchar ih =>
    rw [tokens_cons hchar, List.mem_cons, Token.char.injEq] at h
    exact List.mem_cons.2 (h.imp_right ih)
  | escape high low b cs hbyte ih =>
    rw [tokens_digits hbyte, List.mem_cons] at h
    rcases h with h | h
    · exact nomatch h
    · exact List.mem_append_right ['%', high, low] (ih h)

/-- A text without `%` has no escapes. -/
theorem hasAsciiEscapes_of_not_mem {cs : List Char} (h : '%' ∉ cs) : HasAsciiEscapes cs := by
  intro t ht
  cases t with
  | char c =>
    rintro rfl
    exact h (mem_of_char_mem_tokens ht)
  | byte b =>
    rw [tokens_of_not_mem h] at ht
    obtain ⟨c, -, hc⟩ := List.mem_map.1 ht
    exact nomatch hc

/-! ### Nothing is cut off -/

theorem endsInEscape_cons {c : Char} (h : c ≠ '%') (cs : List Char) :
    endsInEscape (c :: cs) = endsInEscape cs := by
  match cs with
  | [] => simpa [endsInEscape] using h
  | [d] => simp [endsInEscape, h]
  | _ :: _ :: _ => rfl

section

variable {cs : List Char} (h : HasAsciiEscapes cs)
include h

theorem HasAsciiEscapes.endsInEscape : endsInEscape cs = false := by
  rw [HasAsciiEscapes] at h
  induction cs using text_induction with
  | nil => rfl
  | char c cs hchar ih =>
    rw [tokens_cons hchar, List.forall_mem_cons] at h
    rw [endsInEscape_cons h.1, ih h.2]
  | escape high low b cs hbyte ih =>
    rw [tokens_digits hbyte, List.forall_mem_cons] at h
    obtain ⟨hhigh, hlow⟩ := isSome_of_byteOfDigits? hbyte
    show Percent.endsInEscape (high :: low :: cs) = false
    rw [endsInEscape_cons (ne_percent_of_hexDigit? hhigh),
      endsInEscape_cons (ne_percent_of_hexDigit? hlow), ih h.2]

theorem bytesOfText_eq_encode_plain : bytesOfText cs = Charset.Utf8.encode (plain cs) := by
  rw [bytesOfText_eq, Charset.Utf8.encode, plain, List.flatMap_map, List.flatMap_def,
    List.flatMap_def]
  refine congrArg List.flatten (List.map_congr_left fun t ht => ?_)
  cases t with
  | char c => rfl
  | byte b =>
    have hb : (Char.ofNat b.toNat).toNat < 0x80 := by
      rw [toNat_charOfByte]
      exact UInt8.lt_iff_toNat_lt.1 (h (.byte b) ht)
    rw [Token.plain, Charset.Utf8.utf8EncodeChar_of_ascii hb, toNat_charOfByte, UInt8.ofNat_toNat]
    rfl

theorem HasAsciiEscapes.isClosed : IsClosed cs where
  escape := h.endsInEscape
  char := by
    rw [bytesOfText_eq_encode_plain h, Charset.Utf8.EndsWhole, Charset.Utf8.run_encode]

theorem unquote_eq_plain : unquote (String.ofList cs) = String.ofList (plain cs) := by
  rw [unquote_eq, String.toList_ofList, bytesOfText_eq_encode_plain h, Charset.Utf8.decode_encode]

end

/-! ### Reading a table -/

section

variable {table : Charset.SingleByte}

/-- What a token is read as: an escape as the character of its byte. -/
def Token.readIn (table : Charset.SingleByte) : Token → Char
  | .char c => c
  | .byte b => (table.char? b).getD replacementChar

/-- What a segment is read as. -/
def Segment.readIn (table : Charset.SingleByte) : Segment → List Char
  | .ascii run => table.decode (bytesOfRun run)
  | .other c => [c]

theorem Segment.unquoted_singleByte {charset : String}
    (h : Charset.lookUp charset = .ok (.singleByte table)) (s : Segment) :
    s.unquoted charset = .ok (s.readIn table) := by
  cases s with
  | ascii run =>
    rw [unquoted, Charset.decode, h]
    rfl
  | other c => rfl

/-- A run of ASCII characters is read token by token. -/
theorem readIn_ascii {run : List Char} (h : ∀ c ∈ run, c.toNat < 0x80) :
    (Segment.ascii run).readIn table = (tokens run).map (Token.readIn table) := by
  have htoken : ∀ t ∈ tokens run, table.decode t.bytes = [t.readIn table] := by
    intro t ht
    cases t with
    | char c =>
      have hc := h c (mem_of_char_mem_tokens ht)
      rw [Token.bytes, Charset.Utf8.utf8EncodeChar_of_ascii hc, Charset.SingleByte.decode,
        List.map_cons, Charset.SingleByte.char?_of_byte? (Charset.SingleByte.byte?_of_ascii hc)]
      rfl
    | byte b => rfl
  rw [Segment.readIn, ← bytesOfText_of_ascii h, bytesOfText_eq, Charset.SingleByte.decode,
    List.map_flatMap, List.map_eq_flatMap, List.flatMap_def, List.flatMap_def]
  exact congrArg List.flatten (List.map_congr_left htoken)

theorem flatMap_readIn_segments (cs : List Char) :
    (segments cs).flatMap (Segment.readIn table) = (tokens cs).map (Token.readIn table) := by
  refine flatMap_segments (fun cs => (tokens cs).map (Token.readIn table)) rfl
    (fun run hascii => readIn_ascii hascii) (fun a c b hc => ?_) cs
  rw [tokens_append_cons hc, List.map_append, List.map_cons]
  rfl

/-- Under each name of a table a text is unquoted token by token. -/
theorem unquoteIn_singleByte {charset : String}
    (h : Charset.lookUp charset = .ok (.singleByte table)) (text : String) :
    unquoteIn charset text =
      .ok (String.ofList ((tokens text.toList).map (Token.readIn table))) := by
  rw [← flatMap_readIn_segments]
  refine unquoteIn_eq (Segment.unquoted_singleByte h) fun hpercent => ?_
  rw [flatMap_readIn_segments, tokens_of_not_mem hpercent, List.map_map]
  exact List.map_id _

/-- Escapes of ASCII characters are the same in each table. -/
theorem map_readIn_tokens {cs : List Char} (h : HasAsciiEscapes cs) :
    (tokens cs).map (Token.readIn table) = plain cs := by
  refine List.map_congr_left fun t ht => ?_
  cases t with
  | char c => rfl
  | byte b => rw [Token.readIn, Charset.SingleByte.char?_of_ascii (h (.byte b) ht)]; rfl

/-- Quoted bytes are read as they are read by themselves, whatever follows. -/
theorem map_readIn_quoteBytes_append (bytes : Bytes) (rest : List Char) :
    (tokens (quoteBytes bytes ++ rest)).map (Token.readIn table) =
      table.decode bytes ++ (tokens rest).map (Token.readIn table) := by
  induction bytes with
  | nil => rfl
  | cons b bytes ih =>
    have hbyte : (if isUnreserved (Char.ofNat b.toNat) then Token.char (Char.ofNat b.toNat)
        else .byte b).readIn table = (table.char? b).getD replacementChar := by
      split
      · next hkept =>
        have hb : b < 0x80 := by
          rw [UInt8.lt_iff_toNat_lt, ← toNat_charOfByte]
          exact toNat_lt_of_isUnreserved hkept
        rw [Charset.SingleByte.char?_of_ascii hb]
        rfl
      · rfl
    rw [quoteBytes, List.flatMap_cons, ← quoteBytes, List.append_assoc, tokens_quoteByte_append,
      List.map_cons, ih, hbyte]
    rfl

/-- A text quoted in a table. Characters outside the table are left out. -/
def quoteBy (table : Charset.SingleByte) (text : String) : String :=
  String.ofList (quoteBytes (text.toList.filterMap table.byte?))

theorem quoteIn_singleByte {charset : String}
    (h : Charset.lookUp charset = .ok (.singleByte table)) {text : String}
    (hsome : ∀ c ∈ text.toList, (table.byte? c).isSome = true) :
    quoteIn charset text = .ok (quoteBy table text) := by
  rw [quoteIn, quoteBy]
  split
  · next hempty => rw [hempty]; rfl
  · rw [Charset.encode_eq h, Charset.encodeAs, Charset.SingleByte.encode_of_isSome hsome]
    rfl

/-- A text that is quoted in a table is read back, whatever follows. -/
theorem map_readIn_quoteBy_append {text : String}
    (hsome : ∀ c ∈ text.toList, (table.byte? c).isSome = true) (rest : List Char) :
    (tokens ((quoteBy table text).toList ++ rest)).map (Token.readIn table) =
      text.toList ++ (tokens rest).map (Token.readIn table) := by
  rw [quoteBy, String.toList_ofList, map_readIn_quoteBytes_append,
    Charset.SingleByte.decode_of_encode (Charset.SingleByte.encode_of_isSome hsome)]

end

end HttpInterface.Percent
