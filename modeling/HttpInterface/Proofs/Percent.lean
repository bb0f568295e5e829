import HttpInterface.Percent
import HttpInterface.Proofs.Charset.Utf8

/-!
# `HttpInterface.Proofs.Percent`: quoted texts and their escapes

A quoted text holds unreserved characters and `%` only. No delimiter gets into it, whatever the
text (`not_mem_quote`). Its escapes are read as the bytes that they were written for
(`byteOfDigits?_upperHexDigit`).

Unquoting takes a text for a row of complete escapes and of characters that stand for themselves.
`tokens` is this row, whatever the bytes of the escapes are read as.

A text may be cut, and its two parts taken on their own, unless an escape begins in the first part
and ends in the second (`tokens_append`). `GoesOnAsEscape` says that one does: the first part ends
with `%` and at most one digit, and the second has what is missing.
-/

set_option autoImplicit false

namespace HttpInterface.Percent

/-! ### Characters of a quoted text -/

theorem toNat_charOfByte (b : UInt8) : (Char.ofNat b.toNat).toNat = b.toNat := by
  have hb : b.toNat < 256 := b.toNat_lt
  exact Charset.Utf8.toNat_charOfNat (by omega)

theorem isUnreserved_upperHexDigit {n : Nat} (h : n < 16) :
    isUnreserved (Text.upperHexDigit n) = true := by
  have key : ∀ n < 16, isUnreserved (Text.upperHexDigit n) = true := by decide
  exact key n h

theorem hexDigit?_upperHexDigit {n : Nat} (h : n < 16) :
    Text.hexDigit? (Text.upperHexDigit n) = some n := by
  have key : ∀ n < 16, Text.hexDigit? (Text.upperHexDigit n) = some n := by decide
  exact key n h

/-- The digits of an escape are read as its byte. -/
theorem byteOfDigits?_upperHexDigit (b : UInt8) :
    byteOfDigits? (Text.upperHexDigit (b.toNat / 16)) (Text.upperHexDigit (b.toNat % 16)) =
      some b := by
  have hb : b.toNat < 256 := b.toNat_lt
  rw [byteOfDigits?, hexDigit?_upperHexDigit (by omega), hexDigit?_upperHexDigit (by omega)]
  show some (UInt8.ofNat (b.toNat / 16 * 16 + b.toNat % 16)) = some b
  rw [show b.toNat / 16 * 16 + b.toNat % 16 = b.toNat by omega, UInt8.ofNat_toNat]

theorem mem_escape {b : UInt8} {c : Char} (h : c ∈ escape b) : isUnreserved c = true ∨ c = '%' := by
  have hb : b.toNat < 256 := b.toNat_lt
  simp only [escape, List.mem_cons, List.not_mem_nil, or_false] at h
  rcases h with rfl | rfl | rfl
  · exact Or.inr rfl
  · exact Or.inl (isUnreserved_upperHexDigit (by omega))
  · exact Or.inl (isUnreserved_upperHexDigit (by omega))

/-- A character of a quoted byte is unreserved or starts an escape. -/
theorem mem_quoteByte {b : UInt8} {c : Char} (h : c ∈ quoteByte b) :
    isUnreserved c = true ∨ c = '%' := by
  rw [quoteByte] at h
  split at h
  · next hkept => exact Or.inl (List.mem_singleton.1 h ▸ hkept)
  · exact mem_escape h

theorem mem_quoteBytes {bytes : Bytes} {c : Char} (h : c ∈ quoteBytes bytes) :
    isUnreserved c = true ∨ c = '%' := by
  obtain ⟨b, -, hc⟩ := List.mem_flatMap.1 h
  exact mem_quoteByte hc

/-- A character that quoting does not keep and that starts no escape. -/
def isReserved (c : Char) : Bool :=
  !isUnreserved c && c != '%'

theorem ne_of_isReserved {c d : Char} (h : isReserved c = true)
    (hd : isUnreserved d = true ∨ d = '%') : d ≠ c := by
  rintro rfl
  obtain ⟨hkept, hpercent⟩ : isUnreserved d = false ∧ d ≠ '%' := by simpa [isReserved] using h
  rcases hd with hd | hd
  · rw [hkept] at hd
    exact nomatch hd
  · exact hpercent hd

theorem not_mem_escape {c : Char} (h : isReserved c = true) (b : UInt8) : c ∉ escape b :=
  fun hmem => ne_of_isReserved h (mem_escape hmem) rfl

/-- No reserved character gets into a quoted text. -/
theorem not_mem_quote {c : Char} (h : isReserved c = true) (text : String) :
    c ∉ (quote text).toList := by
  intro hmem
  rw [quote, String.toList_ofList] at hmem
  exact ne_of_isReserved h (mem_quoteBytes hmem) rfl

theorem toNat_lt_of_isUnreserved {c : Char} (h : isUnreserved c = true) : c.toNat < 0x80 := by
  simp only [isUnreserved, Bool.or_eq_true, beq_iff_eq] at h
  rcases h with (((h | rfl) | rfl) | rfl) | rfl
  · have halnum : c.isAlphanum = ((c.isUpper || c.isLower) || c.isDigit) := rfl
    have hupper : c.isUpper = true → c.val ≤ 0x5A := fun h => (of_decide_eq_true h).2
    have hlower : c.isLower = true → c.val ≤ 0x7A := fun h =>
      of_decide_eq_true (Bool.and_eq_true_iff.1 h).2
    have hdigit : c.isDigit = true → c.val ≤ 0x39 := fun h =>
      of_decide_eq_true (Bool.and_eq_true_iff.1 h).2
    rw [halnum, Bool.or_eq_true, Bool.or_eq_true] at h
    rw [show c.toNat = c.val.toNat from rfl]
    rcases h with (h | h) | h
    · exact Nat.lt_of_le_of_lt (UInt32.le_iff_toNat_le.1 (hupper h)) (by decide)
    · exact Nat.lt_of_le_of_lt (UInt32.le_iff_toNat_le.1 (hlower h)) (by decide)
    · exact Nat.lt_of_le_of_lt (UInt32.le_iff_toNat_le.1 (hdigit h)) (by decide)
  all_goals decide

/-! ### Escapes of a text -/

/-- A part of a text: an escape by its byte, or a character outside of escapes. -/
inductive Token where
  | char (c : Char)
  | byte (b : UInt8)
  deriving DecidableEq, Repr

/-- The tokens of a text. -/
def tokens : List Char → List Token
  | '%' :: high :: low :: rest =>
    match byteOfDigits? high low with
    | some b => .byte b :: tokens rest
    | none => .char '%' :: tokens (high :: low :: rest)
  | c :: rest => .char c :: tokens rest
  | [] => []

/-- Two hexadecimal digits stand in front. -/
def startsWithDigits : List Char → Bool
  | high :: low :: _ => (byteOfDigits? high low).isSome
  | _ => false

/-- The text ends with the beginning of an escape. -/
def endsInEscape : List Char → Bool
  | [] => false
  | [c] => c == '%'
  | [c, d] => d == '%' || (c == '%' && (Text.hexDigit? d).isSome)
  | _ :: rest => endsInEscape rest

/-- The first text ends with the beginning of an escape, and the second goes on with its digits. -/
def GoesOnAsEscape (a b : List Char) : Prop :=
  ∃ front digits, a = front ++ '%' :: digits ∧ digits.length < 2 ∧
    startsWithDigits (digits ++ b) = true

/-! ### Digits -/

theorem byteOfDigits?_eq_none {high low : Char}
    (h : Text.hexDigit? high = none ∨ Text.hexDigit? low = none) :
    byteOfDigits? high low = none := by
  rw [byteOfDigits?]
  rcases h with h | h
  · rw [h]
    rfl
  · rw [h]
    cases Text.hexDigit? high <;> rfl

theorem isSome_of_byteOfDigits? {high low : Char} {b : UInt8}
    (h : byteOfDigits? high low = some b) :
    (Text.hexDigit? high).isSome = true ∧ (Text.hexDigit? low).isSome = true := by
  constructor
  · refine Decidable.byContradiction fun hno => ?_
    rw [byteOfDigits?_eq_none (Or.inl (by simpa using hno))] at h
    exact nomatch h
  · refine Decidable.byContradiction fun hno => ?_
    rw [byteOfDigits?_eq_none (Or.inr (by simpa using hno))] at h
    exact nomatch h

theorem ne_percent_of_hexDigit? {c : Char} (h : (Text.hexDigit? c).isSome = true) : c ≠ '%' := by
  rintro rfl
  exact absurd h (by decide)

theorem startsWithDigits_iff {cs : List Char} :
    startsWithDigits cs = true ↔
      ∃ high low b rest, cs = high :: low :: rest ∧ byteOfDigits? high low = some b := by
  match cs with
  | [] => simp [startsWithDigits]
  | [_] => simp [startsWithDigits]
  | high :: low :: rest =>
    rw [startsWithDigits, Option.isSome_iff_exists]
    constructor
    · rintro ⟨b, hb⟩
      exact ⟨high, low, b, rest, rfl, hb⟩
    · rintro ⟨_, _, b, _, heq, hb⟩
      simp only [List.cons.injEq] at heq
      obtain ⟨rfl, rfl, -⟩ := heq
      exact ⟨b, hb⟩

theorem startsWithDigits_of_head? {cs : List Char}
    (h : ∀ c, cs.head? = some c → Text.hexDigit? c = none) : startsWithDigits cs = false := by
  match cs with
  | [] => rfl
  | [_] => rfl
  | high :: low :: _ =>
    rw [startsWithDigits, byteOfDigits?_eq_none (Or.inl (h high rfl))]
    rfl

/-! ### The beginning of an escape -/

theorem endsInEscape_of_cons {c : Char} {cs : List Char} (h : endsInEscape (c :: cs) = false) :
    endsInEscape cs = false := by
  match cs with
  | [] => rfl
  | [d] =>
    simp only [endsInEscape, Bool.or_eq_false_iff] at h
    exact h.1
  | _ :: _ :: _ => exact h

theorem endsInEscape_of_append {front cs : List Char} (h : endsInEscape (front ++ cs) = false) :
    endsInEscape cs = false := by
  induction front with
  | nil => exact h
  | cons c front ih => exact ih (endsInEscape_of_cons h)

/-- Only `%` begins an escape. -/
theorem endsInEscape_of_not_mem {cs : List Char} (h : '%' ∉ cs) : endsInEscape cs = false := by
  induction cs with
  | nil => rfl
  | cons c cs ih =>
    rw [List.mem_cons, not_or] at h
    match cs with
    | [] => simpa [endsInEscape] using Ne.symm h.1
    | [d] =>
      have hd : d ≠ '%' := fun hd => h.2 (hd ▸ List.mem_cons_self)
      simp [endsInEscape, Ne.symm h.1, hd]
    | _ :: _ :: _ => exact ih h.2

/-- No escape goes on behind a text that does not end with the beginning of one. -/
theorem not_goesOnAsEscape_of_endsInEscape {a : List Char} (h : endsInEscape a = false)
    (b : List Char) : ¬GoesOnAsEscape a b := by
  rintro ⟨front, digits, rfl, hlength, hdigits⟩
  have hend := endsInEscape_of_append h
  match digits with
  | [] => exact nomatch hend
  | [high] =>
    obtain ⟨_, low, byte, rest, heq, hbyte⟩ := startsWithDigits_iff.1 hdigits
    obtain ⟨rfl, -⟩ := List.cons.inj heq
    simp [endsInEscape, (isSome_of_byteOfDigits? hbyte).1] at hend
  | _ :: _ :: _ => exact absurd hlength (by simp)

/-- No escape goes on with a text that begins with no digit. -/
theorem not_goesOnAsEscape_of_head? {b : List Char}
    (h : ∀ c, b.head? = some c → Text.hexDigit? c = none) (a : List Char) :
    ¬GoesOnAsEscape a b := by
  rintro ⟨front, digits, -, hlength, hdigits⟩
  match digits with
  | [] =>
    rw [List.nil_append, startsWithDigits_of_head? h] at hdigits
    exact nomatch hdigits
  | [high] =>
    obtain ⟨_, low, byte, rest, heq, hbyte⟩ := startsWithDigits_iff.1 hdigits
    obtain ⟨-, rfl⟩ := List.cons.inj heq
    have hlow := (isSome_of_byteOfDigits? hbyte).2
    rw [h low rfl] at hlow
    exact nomatch hlow
  | _ :: _ :: _ => exact absurd hlength (by simp)

/-- A new escape does not go on with another one. -/
theorem not_goesOnAsEscape_percent (a cs : List Char) : ¬GoesOnAsEscape a ('%' :: cs) := by
  refine not_goesOnAsEscape_of_head? (fun c hc => ?_) a
  rw [← Option.some.inj hc]
  rfl

theorem GoesOnAsEscape.append_left {a b : List Char} (h : GoesOnAsEscape a b) (front : List Char) :
    GoesOnAsEscape (front ++ a) b := by
  obtain ⟨front', digits, rfl, hlength, hdigits⟩ := h
  exact ⟨front ++ front', digits, (List.append_assoc ..).symm, hlength, hdigits⟩

/-! ### Token by token -/

/-- A character that begins no escape stands for itself. -/
theorem tokens_cons {c : Char} {cs : List Char} (h : c = '%' → startsWithDigits cs = false) :
    tokens (c :: cs) = .char c :: tokens cs := by
  by_cases hc : c = '%'
  · subst hc
    match cs with
    | [] => rfl
    | [_] => rfl
    | high :: low :: rest =>
      have hnone : byteOfDigits? high low = none := by simpa [startsWithDigits] using h rfl
      rw [tokens, hnone]
  · rw [tokens]
    rintro high low rest rfl
    exact absurd rfl hc

theorem tokens_digits {high low : Char} {b : UInt8} (h : byteOfDigits? high low = some b)
    (cs : List Char) : tokens ('%' :: high :: low :: cs) = .byte b :: tokens cs := by
  rw [tokens, h]

/-- A text is empty, or it begins with an escape, or with a character that begins none. -/
theorem text_induction {P : List Char → Prop} (nil : P [])
    (char : ∀ c cs, (c = '%' → startsWithDigits cs = false) → P cs → P (c :: cs))
    (escape : ∀ high low b cs, byteOfDigits? high low = some b → P cs →
      P ('%' :: high :: low :: cs)) (cs : List Char) : P cs := by
  induction cs using tokens.induct with
  | case1 high low rest b hb ih => exact escape high low b rest hb ih
  | case2 high low rest hnone ih =>
    exact char '%' _ (fun _ => by rw [startsWithDigits, hnone]; rfl) ih
  | case3 c rest hno ih =>
    refine char c rest ?_ ih
    rintro rfl
    match rest with
    | [] => rfl
    | [_] => rfl
    | high :: low :: rest => exact absurd rfl (hno high low rest rfl)
  | case4 => exact nil

/-- Two texts have their own tokens, one after the other, if no escape begins in the first and ends
in the second. -/
theorem tokens_append {a b : List Char} (h : ¬GoesOnAsEscape a b) :
    tokens (a ++ b) = tokens a ++ tokens b := by
  -- On the first text: only its last two characters could reach into the second.
  induction a using text_induction with
  | nil => rfl
  | char c cs hchar ih =>
    have hdigits : c = '%' → startsWithDigits (cs ++ b) = false := by
      rintro rfl
      match cs with
      | [] => exact Bool.eq_false_iff.2 fun hb => h ⟨[], [], rfl, by simp, hb⟩
      | [high] => exact Bool.eq_false_iff.2 fun hb => h ⟨[], [high], rfl, by simp, hb⟩
      | high :: low :: cs => exact hchar rfl
    rw [List.cons_append, tokens_cons hchar, tokens_cons hdigits,
      ih fun hgo => h (hgo.append_left [c]), List.cons_append]
  | escape high low byte cs hbyte ih =>
    rw [List.cons_append, List.cons_append, List.cons_append, tokens_digits hbyte,
      tokens_digits hbyte, ih fun hgo => h (hgo.append_left ['%', high, low]), List.cons_append]

/-- Without `%` each character stands for itself. -/
theorem tokens_of_not_mem {cs : List Char} (h : '%' ∉ cs) : tokens cs = cs.map .char := by
  induction cs with
  | nil => rfl
  | cons c cs ih =>
    rw [List.mem_cons, not_or] at h
    rw [tokens_cons fun hc => absurd hc.symm h.1, ih h.2, List.map_cons]

/-! ### Quoted bytes -/

theorem tokens_escape_append (b : UInt8) (rest : List Char) :
    tokens (escape b ++ rest) = .byte b :: tokens rest :=
  tokens_digits (byteOfDigits?_upperHexDigit b) rest

/-- A quoted byte is an escape, or the unreserved character that it is. -/
theorem tokens_quoteByte_append (b : UInt8) (rest : List Char) :
    tokens (quoteByte b ++ rest) =
      (if isUnreserved (Char.ofNat b.toNat) then .char (Char.ofNat b.toNat) else .byte b) ::
        tokens rest := by
  rw [quoteByte]
  split
  · next hkept =>
    -- A character that is kept starts no escape.
    have hne : Char.ofNat b.toNat ≠ '%' := by
      intro h
      rw [h] at hkept
      exact absurd hkept (by decide)
    exact tokens_cons fun h => absurd h hne
  · exact tokens_escape_append b rest

end HttpInterface.Percent
