import HttpInterface.Proofs.Charset

/-!
# `HttpInterface.Proofs.Charset.ReadAsUtf8`: bytes of one charset read as another

Bytes that are written in one charset may be read as UTF-8. `AgreesWithUtf8` lists the texts that
come back: every text in UTF-8, the ASCII texts in a table, the empty text in UTF-16 without a mark,
and none in a charset with a mark. `decode_eq_iff_of_encodeAs` shows that these are all.

Reading never fails, so a text could come back by accident, replacements included. Two facts rule
that out. Bytes that are read without a replacement are the ones that UTF-8 writes
(`encode_decode`). And some bytes tell what they are read as wherever they stand: one below `0x80`
is a character of ASCII, one above `0xF4` a replacement (`countP_le_countP_decode`). UTF-16 writes
more of these bytes than the text has such characters, so the text has none.
-/

set_option autoImplicit false

namespace HttpInterface.Charset.Utf8

/-! ### Reading without replacements -/

section

variable {a b c d : Nat}

/-- Two bytes that fit together are those of a character. -/
theorem exists_of_two (ha : 0xC2 ≤ a ∧ a ≤ 0xDF) (hb : 0x80 ≤ b ∧ b ≤ 0xBF) :
    ∃ ch, String.utf8EncodeChar ch = [UInt8.ofNat a, UInt8.ofNat b] := by
  obtain ⟨v, hv⟩ : ∃ v, v = (a - 0xC0) * 64 + (b - 0x80) := ⟨_, rfl⟩
  refine ⟨Char.ofNat v, ?_⟩
  rw [String.utf8EncodeChar]
  simp only [toNat_charOfNat (n := v) (by omega)]
  rw [if_neg (by omega), if_pos (by omega), show v / 64 % 32 + 192 = a by omega,
    show v % 64 + 128 = b by omega]

/-- Three bytes that fit together are those of a character. -/
theorem exists_of_three (ha : 0xE0 ≤ a ∧ a ≤ 0xEF)
    (hb : (if a = 0xE0 then 0xA0 else 0x80) ≤ b ∧ b ≤ if a = 0xED then 0x9F else 0xBF)
    (hc : 0x80 ≤ c ∧ c ≤ 0xBF) :
    ∃ ch, String.utf8EncodeChar ch = [UInt8.ofNat a, UInt8.ofNat b, UInt8.ofNat c] := by
  obtain ⟨v, hv⟩ : ∃ v, v = (a - 0xE0) * 4096 + (b - 0x80) * 64 + (c - 0x80) := ⟨_, rfl⟩
  -- The range of the second byte keeps out overlong forms and surrogates.
  have hrange : 0x80 ≤ b ∧ b ≤ 0xBF ∧ 0x800 ≤ v ∧ v ≤ 0xFFFF ∧ (v < 0xD800 ∨ 0xDFFF < v) := by
    split at hb <;> split at hb <;> omega
  refine ⟨Char.ofNat v, ?_⟩
  rw [String.utf8EncodeChar]
  simp only [toNat_charOfNat (n := v) (by omega)]
  rw [if_neg (by omega), if_neg (by omega), if_pos (by omega),
    show v / 4096 % 16 + 224 = a by omega, show v / 64 % 64 + 128 = b by omega,
    show v % 64 + 128 = c by omega]

/-- Four bytes that fit together are those of a character. -/
theorem exists_of_four (ha : 0xF0 ≤ a ∧ a ≤ 0xF4)
    (hb : (if a = 0xF0 then 0x90 else 0x80) ≤ b ∧ b ≤ if a = 0xF4 then 0x8F else 0xBF)
    (hc : 0x80 ≤ c ∧ c ≤ 0xBF) (hd : 0x80 ≤ d ∧ d ≤ 0xBF) :
    ∃ ch, String.utf8EncodeChar ch =
      [UInt8.ofNat a, UInt8.ofNat b, UInt8.ofNat c, UInt8.ofNat d] := by
  obtain ⟨v, hv⟩ :
      ∃ v, v = (a - 0xF0) * 262144 + (b - 0x80) * 4096 + (c - 0x80) * 64 + (d - 0x80) := ⟨_, rfl⟩
  -- The range of the second byte keeps out overlong forms and values above U+10FFFF.
  have hrange : 0x80 ≤ b ∧ b ≤ 0xBF ∧ 0x10000 ≤ v ∧ v < 0x110000 := by
    split at hb <;> split at hb <;> omega
  refine ⟨Char.ofNat v, ?_⟩
  rw [String.utf8EncodeChar]
  simp only [toNat_charOfNat (n := v) (by omega)]
  rw [if_neg (by omega), if_neg (by omega), if_neg (by omega),
    show v / 262144 % 8 + 240 = a by omega, show v / 4096 % 64 + 128 = b by omega,
    show v / 64 % 64 + 128 = c by omega, show v % 64 + 128 = d by omega]

end

/-- Inside a character only a byte in its range avoids a replacement. -/
theorem exists_of_inside {missing value : Nat} {low high : UInt8} {bytes : Bytes}
    (h : replacementChar ∉ decodeFrom (.inside missing value low high) bytes) :
    ∃ n rest, bytes = UInt8.ofNat n :: rest ∧ (low.toNat ≤ n ∧ n ≤ high.toNat) ∧
      (missing ≠ 1 →
        ∃ v, replacementChar ∉ decodeFrom (.inside (missing - 1) v 0x80 0xBF) rest) := by
  cases bytes with
  | nil => exact absurd List.mem_cons_self h
  | cons b rest =>
    rw [decodeFrom_cons, step] at h
    split at h
    · next hin =>
      rw [UInt8.le_iff_toNat_le, UInt8.le_iff_toNat_le] at hin
      refine ⟨b.toNat, rest, by rw [UInt8.ofNat_toNat], hin, fun hmissing => ?_⟩
      simp only [if_neg hmissing] at h
      exact ⟨_, h⟩
    · exact absurd List.mem_cons_self h

/-- A byte that begins no character is replaced. -/
theorem first_of_none {n : Nat} (hn : n < 256) (hnone : (0x80 ≤ n ∧ n ≤ 0xC1) ∨ 0xF4 < n) :
    first (UInt8.ofNat n) = ([replacementChar], .start) := by
  have key : ∀ n < 256, (0x80 ≤ n ∧ n ≤ 0xC1) ∨ 0xF4 < n →
      first (UInt8.ofNat n) = ([replacementChar], .start) := by decide +kernel
  exact key n hn hnone

/-- Bytes that are read without a replacement begin with a character. -/
theorem exists_utf8EncodeChar_append {b : UInt8} {rest : Bytes}
    (h : replacementChar ∉ decode (b :: rest)) :
    ∃ c back, b :: rest = String.utf8EncodeChar c ++ back := by
  obtain ⟨n, hn, rfl⟩ : ∃ n < 256, b = UInt8.ofNat n :=
    ⟨b.toNat, b.toNat_lt, UInt8.ofNat_toNat.symm⟩
  rw [decode, decodeFrom_cons, step] at h
  by_cases hascii : n < 0x80
  · have hchar : (Char.ofNat n).toNat = n := toNat_charOfNat (by omega)
    refine ⟨Char.ofNat n, rest, ?_⟩
    rw [utf8EncodeChar_of_ascii (by omega), hchar]
    rfl
  by_cases htwo : 0xC2 ≤ n ∧ n ≤ 0xDF
  · rw [first_of_two htwo.1 htwo.2] at h
    obtain ⟨m, back, rfl, hm, -⟩ := exists_of_inside h
    obtain ⟨c, hc⟩ := exists_of_two htwo hm
    exact ⟨c, back, by rw [hc]; rfl⟩
  by_cases hthree : 0xE0 ≤ n ∧ n ≤ 0xEF
  · rw [first_of_three hthree.1 hthree.2] at h
    obtain ⟨m, rest, rfl, hm, h⟩ := exists_of_inside h
    obtain ⟨v, h⟩ := h (by decide)
    obtain ⟨k, back, rfl, hk, -⟩ := exists_of_inside h
    rw [apply_ite UInt8.toNat, apply_ite UInt8.toNat] at hm
    obtain ⟨c, hc⟩ := exists_of_three hthree hm hk
    exact ⟨c, back, by rw [hc]; rfl⟩
  by_cases hfour : 0xF0 ≤ n ∧ n ≤ 0xF4
  · rw [first_of_four hfour.1 hfour.2] at h
    obtain ⟨m, rest, rfl, hm, h⟩ := exists_of_inside h
    obtain ⟨v, h⟩ := h (by decide)
    obtain ⟨k, rest, rfl, hk, h⟩ := exists_of_inside h
    obtain ⟨v', h⟩ := h (by decide)
    obtain ⟨l, back, rfl, hl, -⟩ := exists_of_inside h
    rw [apply_ite UInt8.toNat, apply_ite UInt8.toNat] at hm
    obtain ⟨c, hc⟩ := exists_of_four hfour hm hk hl
    exact ⟨c, back, by rw [hc]; rfl⟩
  · rw [first_of_none hn (by omega)] at h
    exact absurd List.mem_cons_self h

/-- Bytes that are read without a replacement are the ones that are written. -/
theorem encode_decode {bytes : Bytes} (h : replacementChar ∉ decode bytes) :
    encode (decode bytes) = bytes := by
  -- One character after the other is taken off, so the induction is on the number of bytes.
  induction hlength : bytes.length using Nat.strongRecOn generalizing bytes with
  | ind length ih =>
    cases bytes with
    | nil => rfl
    | cons b rest =>
      obtain ⟨c, back, hbytes⟩ := exists_utf8EncodeChar_append h
      have hread : decode (b :: rest) = c :: decode back := by
        rw [hbytes]
        exact decodeFrom_encodeChar c back
      rw [hread, List.mem_cons, not_or] at h
      have hlt : back.length < length := by
        rw [← hlength, hbytes, List.length_append, String.length_utf8EncodeChar]
        exact Nat.lt_add_of_pos_left c.utf8Size_pos
      have hback : encode (decode back) = back := ih back.length hlt h.2 rfl
      rw [hread, hbytes, encode, List.flatMap_cons, ← encode, hback]

/-- A text without replacements is read from no other bytes than those that it is written as. -/
theorem decode_eq_iff {bytes : Bytes} {cs : List Char} (h : replacementChar ∉ cs) :
    decode bytes = cs ↔ bytes = encode cs := by
  constructor
  · rintro rfl
    exact (encode_decode h).symm
  · rintro rfl
    exact decode_encode cs

/-! ### Bytes that tell what they are read as -/

/-- Bytes that are read as a character of some kind wherever they stand are no more than such
characters of the text that is read. -/
theorem countP_le_countP_decode {q : UInt8 → Bool} {kind : Char → Bool}
    (hout : ∀ b, q b = true → b < 0x80 ∨ 0xBF < b)
    (hkind : ∀ b, q b = true → ∃ c ∈ (first b).1, kind c = true) (bytes : Bytes) :
    bytes.countP q ≤ (decode bytes).countP kind := by
  have key : ∀ (bytes : Bytes) (state : State), state.IsProper →
      bytes.countP q ≤ (decodeFrom state bytes).countP kind := by
    intro bytes
    induction bytes with
    | nil => exact fun _ _ => Nat.zero_le _
    | cons b rest ih =>
      intro state hstate
      have hrest := ih _ (isProper_step hstate b)
      rw [decodeFrom_cons, List.countP_append, List.countP_cons]
      split
      · next hq =>
        -- The byte goes on with no character, so it is read afresh.
        have hmem : ∃ c ∈ (step state b).1, kind c = true := by
          obtain ⟨c, hc, hkind⟩ := hkind b hq
          cases state with
          | start => exact ⟨c, hc, hkind⟩
          | inside missing value low high =>
            have hnot : ¬(low ≤ b ∧ b ≤ high) := by
              rintro ⟨hlow, hhigh⟩
              rcases hout b hq with hb | hb
              · exact absurd (UInt8.le_trans hstate.1 hlow) (UInt8.not_le.2 hb)
              · exact absurd (UInt8.le_trans hhigh hstate.2) (UInt8.not_le.2 hb)
            rw [step, if_neg hnot]
            exact ⟨c, List.mem_cons_of_mem _ hc, hkind⟩
        have hpos := List.countP_pos_iff.2 hmem
        omega
      · omega
  exact key bytes .start trivial

/-- A byte below `0x80` is read as a character of ASCII. -/
theorem countP_low_le (bytes : Bytes) :
    bytes.countP (· < 0x80) ≤ (decode bytes).countP (·.toNat < 0x80) := by
  refine countP_le_countP_decode (fun b hb => Or.inl (of_decide_eq_true hb)) (fun b hb => ?_) bytes
  have hb : b < 0x80 := of_decide_eq_true hb
  have hlt : b.toNat < 0x80 := UInt8.lt_iff_toNat_lt.1 hb
  have hchar : (Char.ofNat b.toNat).toNat = b.toNat := toNat_charOfNat (by omega)
  refine ⟨Char.ofNat b.toNat, ?_, decide_eq_true (by omega)⟩
  rw [first, if_pos hb]
  exact List.mem_singleton_self _

/-- A byte above `0xF4` is replaced. -/
theorem countP_high_le (bytes : Bytes) :
    bytes.countP (0xF4 < ·) ≤ (decode bytes).countP (· = replacementChar) := by
  refine countP_le_countP_decode (fun b hb => ?_) (fun b hb => ?_) bytes
  · exact Or.inr (UInt8.lt_trans (by decide) (of_decide_eq_true hb))
  · have hlt : 0xF4 < b.toNat := UInt8.lt_iff_toNat_lt.1 (of_decide_eq_true hb)
    have hfirst := first_of_none b.toNat_lt (Or.inr hlt)
    rw [UInt8.ofNat_toNat] at hfirst
    rw [hfirst]
    exact ⟨replacementChar, List.mem_singleton_self _, decide_eq_true rfl⟩

/-! ### Lengths of what is written -/

theorem length_encode_cons (c : Char) (cs : List Char) :
    (encode (c :: cs)).length = c.utf8Size + (encode cs).length := by
  rw [encode, List.flatMap_cons, ← encode, List.length_append, String.length_utf8EncodeChar]

theorem length_le_length_encode (cs : List Char) : cs.length ≤ (encode cs).length := by
  induction cs with
  | nil => exact Nat.le_refl 0
  | cons c cs ih =>
    have hpos := c.utf8Size_pos
    rw [length_encode_cons, List.length_cons]
    omega

/-- A text with one byte for each character is ASCII. -/
theorem ascii_of_length_encode {cs : List Char} (h : (encode cs).length = cs.length) :
    ∀ c ∈ cs, c.toNat < 0x80 := by
  induction cs with
  | nil => simp
  | cons c cs ih =>
    have hpos := c.utf8Size_pos
    have hle := length_le_length_encode cs
    rw [length_encode_cons, List.length_cons] at h
    have hone : c.val ≤ 127 := Char.utf8Size_eq_one_iff.1 (by omega)
    intro d hd
    rcases List.mem_cons.1 hd with rfl | hd
    · exact Nat.lt_succ_of_le hone
    · exact ih (by omega) d hd

/-- The bytes of a character from U+0800 on: there are three or four, and none of them begins a
character of two bytes. -/
theorem utf8EncodeChar_of_le {c : Char} (h : 0x800 ≤ c.toNat) :
    3 ≤ (String.utf8EncodeChar c).length ∧
      ∀ b ∈ String.utf8EncodeChar c, b.toNat < 0xC0 ∨ 0xE0 ≤ b.toNat := by
  have hvalid := c.valid
  have hv : c.val.toNat = c.toNat := rfl
  rw [UInt32.isValidChar, Nat.isValidChar, hv] at hvalid
  rw [String.utf8EncodeChar]
  simp only [hv]
  rw [if_neg (by omega), if_neg (by omega)]
  split
  · refine ⟨Nat.le_refl 3, ?_⟩
    simp only [List.mem_cons, List.not_mem_nil, or_false, forall_eq_or_imp, forall_eq]
    rw [toNat_byte (by omega), toNat_byte (by omega), toNat_byte (by omega)]
    omega
  · refine ⟨Nat.le_succ 3, ?_⟩
    simp only [List.mem_cons, List.not_mem_nil, or_false, forall_eq_or_imp, forall_eq]
    rw [toNat_byte (by omega), toNat_byte (by omega), toNat_byte (by omega),
      toNat_byte (by omega)]
    omega

theorem three_mul_length_le {cs : List Char} (h : ∀ c ∈ cs, 0x800 ≤ c.toNat) :
    3 * cs.length ≤ (encode cs).length := by
  induction cs with
  | nil => exact Nat.le_refl 0
  | cons c cs ih =>
    have hc := (utf8EncodeChar_of_le (h c List.mem_cons_self)).1
    have hcs := ih fun d hd => h d (List.mem_cons_of_mem c hd)
    rw [encode, List.flatMap_cons, ← encode, List.length_append, List.length_cons]
    omega

end HttpInterface.Charset.Utf8

/-! ### UTF-16 read as UTF-8 -/

namespace HttpInterface.Charset.Utf16

variable {order : Order} {cs : List Char}

/-- The bytes of a character. -/
def charBytes (order : Order) (c : Char) : Bytes :=
  (units c).flatMap (unitBytes order)

theorem encode_cons (order : Order) (c : Char) (cs : List Char) :
    encode order (c :: cs) = charBytes order c ++ encode order cs := rfl

theorem mem_encode_of_mem {c : Char} (hc : c ∈ cs) {b : UInt8} (hb : b ∈ charBytes order c) :
    b ∈ encode order cs :=
  List.mem_flatMap.2 ⟨c, hc, hb⟩

/-- The bytes of a character that is one unit, in one order or the other. -/
theorem charBytes_perm {c : Char} (h : c.toNat < 0x10000) :
    (charBytes order c).Perm [UInt8.ofNat (c.toNat / 256), UInt8.ofNat (c.toNat % 256)] := by
  rw [charBytes, units, if_pos h, List.flatMap_singleton]
  cases order with
  | littleEndian => exact List.Perm.swap _ _ _
  | bigEndian => exact List.Perm.refl _

/-- A character beyond U+FFFF has a byte that begins a surrogate. -/
theorem exists_surrogate_byte (order : Order) {c : Char} (h : 0x10000 ≤ c.toNat) :
    ∃ b ∈ charBytes order c, 0xD8 ≤ b.toNat ∧ b.toNat < 0xDC := by
  have hvalid := c.valid
  have hv : c.val.toNat = c.toNat := rfl
  rw [UInt32.isValidChar, Nat.isValidChar, hv] at hvalid
  have hbyte : (UInt8.ofNat ((0xD800 + (c.toNat - 0x10000) / 1024) / 256)).toNat =
      (0xD800 + (c.toNat - 0x10000) / 1024) / 256 := Utf8.toNat_byte (by omega)
  refine ⟨UInt8.ofNat ((0xD800 + (c.toNat - 0x10000) / 1024) / 256), ?_, by omega, by omega⟩
  rw [charBytes, units, if_neg (by omega)]
  cases order with
  | littleEndian => simp [unitBytes]
  | bigEndian => simp [unitBytes]

/-- Where each character of a kind has two bytes of a kind, there are twice as many such bytes. -/
theorem two_mul_countP_le {q : UInt8 → Bool} {kind : Char → Bool}
    (h : ∀ c, kind c = true → 2 ≤ (charBytes order c).countP q) (cs : List Char) :
    2 * cs.countP kind ≤ (encode order cs).countP q := by
  induction cs with
  | nil => exact Nat.le_refl 0
  | cons c cs ih =>
    rw [encode_cons, List.countP_append, List.countP_cons]
    split
    · next hc =>
      have hbytes := h c hc
      omega
    · omega

/-- Both bytes of a character of ASCII are below `0x80`. -/
theorem two_mul_countP_low (order : Order) (cs : List Char) :
    2 * cs.countP (·.toNat < 0x80) ≤ (encode order cs).countP (· < 0x80) := by
  refine two_mul_countP_le (fun c hc => ?_) cs
  have hc : c.toNat < 0x80 := of_decide_eq_true hc
  have hlow : ∀ n, n < 0x80 → decide (UInt8.ofNat n < 0x80) = true := fun n hn => by
    rw [decide_eq_true_iff, UInt8.lt_iff_toNat_lt, Utf8.toNat_byte (by omega)]
    exact hn
  have hboth : ∀ b ∈ [UInt8.ofNat (c.toNat / 256), UInt8.ofNat (c.toNat % 256)],
      decide (b < 0x80) = true := by
    simp only [List.mem_cons, List.not_mem_nil, or_false, forall_eq_or_imp, forall_eq]
    exact ⟨hlow _ (by omega), hlow _ (by omega)⟩
  rw [(charBytes_perm (by omega)).countP_eq, List.countP_eq_length.2 hboth]
  exact Nat.le_refl 2

/-- Both bytes of a replacement are above `0xF4`. -/
theorem two_mul_countP_high (order : Order) (cs : List Char) :
    2 * cs.countP (· = replacementChar) ≤ (encode order cs).countP (0xF4 < ·) := by
  refine two_mul_countP_le (fun c hc => ?_) cs
  obtain rfl : c = replacementChar := of_decide_eq_true hc
  cases order with
  | littleEndian => decide
  | bigEndian => decide

theorem length_encode (h : ∀ c ∈ cs, c.toNat < 0x10000) :
    (encode order cs).length = 2 * cs.length := by
  induction cs with
  | nil => rfl
  | cons c cs ih =>
    have hcs := ih fun d hd => h d (List.mem_cons_of_mem c hd)
    rw [encode_cons, List.length_append, (charBytes_perm (h c List.mem_cons_self)).length_eq, hcs]
    simp only [List.length_cons, List.length_nil]
    omega

/-- Only the empty text comes back. -/
theorem eq_nil_of_decode (h : Utf8.decode (encode order cs) = cs) : cs = [] := by
  -- The text has no character of ASCII and no replacement, since its bytes would give twice as
  -- many, and then it has no byte that gives one.
  have hlow := two_mul_countP_low order cs
  have hlow' := Utf8.countP_low_le (encode order cs)
  have hhigh := two_mul_countP_high order cs
  have hhigh' := Utf8.countP_high_le (encode order cs)
  rw [h] at hlow' hhigh'
  have hbytes : ∀ b ∈ encode order cs, 0x80 ≤ b.toNat := by
    intro b hb
    have hnot := List.countP_eq_zero.1 (show (encode order cs).countP (· < 0x80) = 0 by omega) b hb
    simpa [UInt8.lt_iff_toNat_lt] using hnot
  have hreplaced : replacementChar ∉ cs := by
    intro hmem
    have hnot := List.countP_eq_zero.1 (show cs.countP (· = replacementChar) = 0 by omega) _ hmem
    simp at hnot
  -- So its bytes are those of UTF-8, and all its characters take three bytes or four there.
  have hwritten : encode order cs = Utf8.encode cs := (Utf8.decode_eq_iff hreplaced).1 h
  have hlarge : ∀ c ∈ cs, 0x800 ≤ c.toNat := by
    intro c hc
    by_cases hunit : c.toNat < 0x10000
    · have hmem : UInt8.ofNat (c.toNat / 256) ∈ charBytes order c :=
        (charBytes_perm hunit).mem_iff.2 List.mem_cons_self
      have hhigh := hbytes _ (mem_encode_of_mem hc hmem)
      rw [Utf8.toNat_byte (by omega)] at hhigh
      omega
    · omega
  -- None takes four: UTF-8 has no byte of a surrogate for such a text.
  have hsmall : ∀ c ∈ cs, c.toNat < 0x10000 := by
    intro c hc
    refine Decidable.byContradiction fun hbeyond => ?_
    obtain ⟨b, hb, hrange⟩ := exists_surrogate_byte order (Nat.not_lt.1 hbeyond)
    have hmem := mem_encode_of_mem hc hb
    rw [hwritten] at hmem
    obtain ⟨d, hd, hbd⟩ := List.mem_flatMap.1 hmem
    have hout := (Utf8.utf8EncodeChar_of_le (hlarge d hd)).2 b hbd
    omega
  have hthree := Utf8.three_mul_length_le hlarge
  rw [← hwritten, length_encode hsmall] at hthree
  exact List.eq_nil_of_length_eq_zero (by omega)

/-- Behind a mark no text comes back: the mark is read as two more replacements than it has. -/
theorem decode_mark_ne (cs : List Char) :
    Utf8.decode (mark ++ encode .littleEndian cs) ≠ cs := by
  intro h
  have hhigh := two_mul_countP_high .littleEndian cs
  have hhigh' := Utf8.countP_high_le (mark ++ encode .littleEndian cs)
  have hmark : mark.countP (0xF4 < ·) = 2 := by decide
  rw [h, List.countP_append, hmark] at hhigh'
  omega

end HttpInterface.Charset.Utf16

/-! ### Texts that come back -/

namespace HttpInterface.Charset

/-- The text comes back if it is written in the charset and read as UTF-8. -/
def AgreesWithUtf8 (c : Charset) (cs : List Char) : Prop :=
  match c with
  | .utf8 => True
  | .singleByte _ => ∀ ch ∈ cs, ch.toNat < 0x80
  | .utf16Plain _ => cs = []
  | .utf8Marked | .utf16 | .rot13 => False

instance (c : Charset) (cs : List Char) : Decidable (c.AgreesWithUtf8 cs) :=
  match c with
  | .utf8 => isTrue trivial
  | .singleByte _ => List.decidableBAll (fun ch : Char => ch.toNat < 0x80) cs
  | .utf16Plain _ => inferInstanceAs (Decidable (cs = []))
  | .utf8Marked | .utf16 | .rot13 => isFalse id

/-- No table has the replacement. -/
theorem SingleByte.byte?_replacementChar (table : SingleByte) :
    table.byte? replacementChar = none := by
  cases table with
  | ascii => decide
  | latin1 => decide
  | windows1252 => decide

/-- From a table the ASCII texts come back: each of them has one byte for each character. -/
theorem SingleByte.decode_eq_iff {table : SingleByte} {cs : List Char} {bytes : Bytes}
    (h : table.encode cs = .ok bytes) :
    Utf8.decode bytes = cs ↔ ∀ ch ∈ cs, ch.toNat < 0x80 := by
  have hreplaced : replacementChar ∉ cs := by
    intro hmem
    have hsome := isSome_of_encode h _ hmem
    rw [byte?_replacementChar] at hsome
    exact nomatch hsome
  rw [Utf8.decode_eq_iff hreplaced]
  rw [encode_eq_ok] at h
  constructor
  · rintro rfl
    have hlength := congrArg List.length h
    rw [List.length_map, List.length_map] at hlength
    exact Utf8.ascii_of_length_encode hlength.symm
  · intro hascii
    rw [List.map_congr_left fun ch hch => byte?_of_ascii (hascii ch hch)] at h
    rw [Utf8.encode_of_ascii hascii]
    refine (List.map_inj_right fun _ _ => Option.some.inj).1 (h.symm.trans ?_)
    rw [List.map_map]
    rfl

/-- Bytes of a text in a charset are read as UTF-8 to the text exactly if the charset agrees with
UTF-8 on it. -/
theorem decode_eq_iff_of_encodeAs {c : Charset} {name : String} {cs : List Char} {bytes : Bytes}
    (h : c.encodeAs name cs = .ok bytes) : Utf8.decode bytes = cs ↔ c.AgreesWithUtf8 cs := by
  cases c with
  | utf8 =>
    obtain rfl := Except.ok.inj h
    exact iff_of_true (Utf8.decode_encode cs) trivial
  | utf8Marked =>
    obtain rfl := Except.ok.inj h
    have hread : Utf8.decode (Utf8.mark ++ Utf8.encode cs) = '\uFEFF' :: cs := by
      rw [show Utf8.mark = Utf8.encode ['\uFEFF'] by decide, Utf8.decode_encode_append,
        Utf8.decode_encode]
      rfl
    rw [hread]
    exact iff_of_false (List.cons_ne_self _ _) id
  | utf16 =>
    obtain rfl := Except.ok.inj h
    exact iff_of_false (Utf16.decode_mark_ne cs) id
  | utf16Plain order =>
    obtain rfl := Except.ok.inj h
    refine ⟨Utf16.eq_nil_of_decode, ?_⟩
    rintro (rfl : cs = [])
    rfl
  | singleByte table =>
    rw [encodeAs] at h
    split at h
    · next found hfound =>
      obtain rfl := Except.ok.inj h
      exact SingleByte.decode_eq_iff hfound
    · cases h
  | rot13 => cases h

end HttpInterface.Charset
