import HttpInterface.Charset.Utf8

/-!
# `HttpInterface.Proofs.Charset.Utf8`: reading undoes writing

The reader replaces what it cannot read, so it is not enough that it accepts what
was written: it must never start to replace. `run` is what it gives and where it then
stands. `run_encodeChar` follows it through the bytes of one character, by the number of the
bytes: it gives just that character and stands before the next one. `decode_encode_append` is the
round trip of a whole text, whatever follows.

Bytes that end with a character can be read on their own, whatever follows
(`decode_append`). And a character is read on its own, whatever stands before it: bytes that end
inside a character give a replacement and no more (`decode_append_encodeChar`).
-/

set_option autoImplicit false

namespace HttpInterface.Charset.Utf8

/-! ### Single bytes -/

theorem toNat_byte {n : Nat} (h : n < 256) : (UInt8.ofNat n).toNat = n := by
  rw [UInt8.toNat_ofNat']
  exact Nat.mod_eq_of_lt h

/-- The number of a character that is made of a number. -/
theorem toNat_charOfNat {n : Nat} (h : n < 0xD800 ∨ (0xDFFF < n ∧ n < 0x110000)) :
    (Char.ofNat n).val.toNat = n := by
  rw [Char.ofNat, dif_pos h]
  rfl

/-- The first of two bytes. -/
theorem first_of_two {n : Nat} (hlow : 0xC2 ≤ n) (hhigh : n ≤ 0xDF) :
    first (UInt8.ofNat n) = ([], .inside 1 (n % 32) 0x80 0xBF) := by
  have key : ∀ k < 30, first (UInt8.ofNat (0xC2 + k)) =
      ([], .inside 1 ((0xC2 + k) % 32) 0x80 0xBF) := by decide
  obtain ⟨k, rfl⟩ := Nat.exists_eq_add_of_le hlow
  exact key k (by omega)

/-- The first of three bytes. It narrows the range of the second one where an
overlong form or a surrogate could begin. -/
theorem first_of_three {n : Nat} (hlow : 0xE0 ≤ n) (hhigh : n ≤ 0xEF) :
    first (UInt8.ofNat n) = ([], .inside 2 (n % 16) (if n = 0xE0 then 0xA0 else 0x80)
      (if n = 0xED then 0x9F else 0xBF)) := by
  have key : ∀ k < 16, first (UInt8.ofNat (0xE0 + k)) =
      ([], .inside 2 ((0xE0 + k) % 16) (if 0xE0 + k = 0xE0 then 0xA0 else 0x80)
        (if 0xE0 + k = 0xED then 0x9F else 0xBF)) := by decide
  obtain ⟨k, rfl⟩ := Nat.exists_eq_add_of_le hlow
  exact key k (by omega)

/-- The first of four bytes. It narrows the range of the second one where an
overlong form or a value above U+10FFFF could begin. -/
theorem first_of_four {n : Nat} (hlow : 0xF0 ≤ n) (hhigh : n ≤ 0xF4) :
    first (UInt8.ofNat n) = ([], .inside 3 (n % 8) (if n = 0xF0 then 0x90 else 0x80)
      (if n = 0xF4 then 0x8F else 0xBF)) := by
  have key : ∀ k < 5, first (UInt8.ofNat (0xF0 + k)) =
      ([], .inside 3 ((0xF0 + k) % 8) (if 0xF0 + k = 0xF0 then 0x90 else 0x80)
        (if 0xF0 + k = 0xF4 then 0x8F else 0xBF)) := by decide
  obtain ⟨k, rfl⟩ := Nat.exists_eq_add_of_le hlow
  exact key k (by omega)

/-! ### Running the reader -/

/-- What the reader gives while it reads, and where it stands then. -/
def run : State → Bytes → List Char × State
  | state, [] => ([], state)
  | state, b :: rest =>
    ((step state b).1 ++ (run (step state b).2 rest).1, (run (step state b).2 rest).2)

theorem decodeFrom_cons (state : State) (b : UInt8) (rest : Bytes) :
    decodeFrom state (b :: rest) = (step state b).1 ++ decodeFrom (step state b).2 rest := by
  cases state <;> rfl

/-- Reading goes on from where the reader stands. -/
theorem decodeFrom_append (state : State) (a b : Bytes) :
    decodeFrom state (a ++ b) = (run state a).1 ++ decodeFrom (run state a).2 b := by
  induction a generalizing state with
  | nil => rfl
  | cons x a ih => rw [List.cons_append, decodeFrom_cons, ih, run, List.append_assoc]

theorem run_append (state : State) (a b : Bytes) :
    run state (a ++ b) =
      ((run state a).1 ++ (run (run state a).2 b).1, (run (run state a).2 b).2) := by
  induction a generalizing state with
  | nil => rfl
  | cons x a ih => rw [List.cons_append, run, ih, run, List.append_assoc]

/-! ### Bytes inside a character -/

section

variable {n : Nat} {low high : UInt8} (hlow : low.toNat ≤ n) (hhigh : n ≤ high.toNat)
include hlow hhigh

/-- A byte in its range takes the reader one byte on. -/
theorem step_inside (missing value : Nat) :
    step (.inside missing value low high) (UInt8.ofNat n) =
      if missing = 1 then ([Char.ofNat (value * 64 + n % 64)], .start)
      else ([], .inside (missing - 1) (value * 64 + n % 64) 0x80 0xBF) := by
  have hn : (UInt8.ofNat n).toNat = n := toNat_byte (Nat.lt_of_le_of_lt hhigh high.toNat_lt)
  rw [step, if_pos ⟨by rw [UInt8.le_iff_toNat_le, hn]; exact hlow,
    by rw [UInt8.le_iff_toNat_le, hn]; exact hhigh⟩, hn]

/-- A byte that is not the last one adds its six bits. -/
theorem run_inside (missing value : Nat) (rest : Bytes) :
    run (.inside (missing + 2) value low high) (UInt8.ofNat n :: rest) =
      run (.inside (missing + 1) (value * 64 + n % 64) 0x80 0xBF) rest := by
  rw [run, step_inside hlow hhigh, if_neg (by omega)]
  rfl

/-- The last byte adds its six bits and ends the character. -/
theorem run_last (value : Nat) :
    run (.inside 1 value low high) [UInt8.ofNat n] =
      ([Char.ofNat (value * 64 + n % 64)], .start) := by
  rw [run, step_inside hlow hhigh, if_pos rfl]
  rfl

end

/-! ### One character -/

section

variable {v : Nat}

theorem run_one (hv : v ≤ 0x7F) : run .start [UInt8.ofNat v] = ([Char.ofNat v], .start) := by
  have hb : UInt8.ofNat v < 0x80 := by
    rw [UInt8.lt_iff_toNat_lt, toNat_byte (by omega)]
    exact Nat.lt_succ_of_le hv
  rw [run, step, first, if_pos hb, toNat_byte (by omega)]
  rfl

theorem run_two (hlow : 0x80 ≤ v) (hhigh : v ≤ 0x7FF) :
    run .start [UInt8.ofNat (v / 64 % 32 + 192), UInt8.ofNat (v % 64 + 128)] =
      ([Char.ofNat v], .start) := by
  have hvalue : (v / 64 % 32 + 192) % 32 * 64 + (v % 64 + 128) % 64 = v := by omega
  rw [run, step, first_of_two (by omega) (by omega),
    run_last (by show 0x80 ≤ _; omega) (by show _ ≤ 0xBF; omega), hvalue]
  rfl

theorem run_three (hlow : 0x800 ≤ v) (hhigh : v ≤ 0xFFFF) (hscalar : v < 0xD800 ∨ 0xDFFF < v) :
    run .start
        [UInt8.ofNat (v / 4096 % 16 + 224), UInt8.ofNat (v / 64 % 64 + 128),
          UInt8.ofNat (v % 64 + 128)] =
      ([Char.ofNat v], .start) := by
  have hvalue : ((v / 4096 % 16 + 224) % 16 * 64 + (v / 64 % 64 + 128) % 64) * 64
      + (v % 64 + 128) % 64 = v := by omega
  -- The second byte is in the range that the first one leaves: `v` is no overlong form
  -- and no surrogate.
  have hsecond_low : (if v / 4096 % 16 + 224 = 0xE0 then (0xA0 : UInt8) else 0x80).toNat
      ≤ v / 64 % 64 + 128 := by
    split
    · show 0xA0 ≤ _
      omega
    · show 0x80 ≤ _
      omega
  have hsecond_high : v / 64 % 64 + 128
      ≤ (if v / 4096 % 16 + 224 = 0xED then (0x9F : UInt8) else 0xBF).toNat := by
    split
    · show _ ≤ 0x9F
      omega
    · show _ ≤ 0xBF
      omega
  rw [run, step, first_of_three (by omega) (by omega), run_inside hsecond_low hsecond_high,
    run_last (by show 0x80 ≤ _; omega) (by show _ ≤ 0xBF; omega), hvalue]
  rfl

theorem run_four (hlow : 0x10000 ≤ v) (hhigh : v < 0x110000) :
    run .start
        [UInt8.ofNat (v / 262144 % 8 + 240), UInt8.ofNat (v / 4096 % 64 + 128),
          UInt8.ofNat (v / 64 % 64 + 128), UInt8.ofNat (v % 64 + 128)] =
      ([Char.ofNat v], .start) := by
  have hvalue : (((v / 262144 % 8 + 240) % 8 * 64 + (v / 4096 % 64 + 128) % 64) * 64
      + (v / 64 % 64 + 128) % 64) * 64 + (v % 64 + 128) % 64 = v := by omega
  -- The second byte is in the range that the first one leaves: `v` is no overlong form
  -- and no value above U+10FFFF.
  have hsecond_low : (if v / 262144 % 8 + 240 = 0xF0 then (0x90 : UInt8) else 0x80).toNat
      ≤ v / 4096 % 64 + 128 := by
    split
    · show 0x90 ≤ _
      omega
    · show 0x80 ≤ _
      omega
  have hsecond_high : v / 4096 % 64 + 128
      ≤ (if v / 262144 % 8 + 240 = 0xF4 then (0x8F : UInt8) else 0xBF).toNat := by
    split
    · show _ ≤ 0x8F
      omega
    · show _ ≤ 0xBF
      omega
  rw [run, step, first_of_four (by omega) (by omega), run_inside hsecond_low hsecond_high,
    run_inside (by show 0x80 ≤ _; omega) (by show _ ≤ 0xBF; omega),
    run_last (by show 0x80 ≤ _; omega) (by show _ ≤ 0xBF; omega), hvalue]
  rfl

end

/-- The reader reads the bytes of a character as that character and is then
before the next one. -/
theorem run_encodeChar (c : Char) : run .start (String.utf8EncodeChar c) = ([c], .start) := by
  have hvalid := c.valid
  have hc : ([Char.ofNat c.toNat], State.start) = ([c], State.start) := by rw [Char.ofNat_toNat]
  have hv : c.val.toNat = c.toNat := rfl
  rw [UInt32.isValidChar, Nat.isValidChar, hv] at hvalid
  rw [String.utf8EncodeChar, ← hc]
  simp only [hv]
  -- One case for each number of bytes.
  split
  · next hone => exact run_one hone
  split
  · next hone htwo => exact run_two (by omega) htwo
  split
  · next hone htwo hthree => exact run_three (by omega) hthree (by omega)
  · next hone htwo hthree => exact run_four (by omega) (by omega)

theorem decodeFrom_encodeChar (c : Char) (rest : Bytes) :
    decodeFrom .start (String.utf8EncodeChar c ++ rest) = c :: decodeFrom .start rest := by
  rw [decodeFrom_append, run_encodeChar]
  rfl

/-- A character of ASCII is one byte, its number. -/
theorem utf8EncodeChar_of_ascii {c : Char} (h : c.toNat < 0x80) :
    String.utf8EncodeChar c = [UInt8.ofNat c.toNat] := by
  have hc : c.val.toNat ≤ 0x7F := Nat.le_of_lt_succ h
  rw [String.utf8EncodeChar]
  simp only [if_pos hc]
  rfl

theorem encode_of_ascii {cs : List Char} (h : ∀ c ∈ cs, c.toNat < 0x80) :
    encode cs = cs.map fun c => UInt8.ofNat c.toNat := by
  rw [encode, List.flatMap_def, List.map_congr_left fun c hc => utf8EncodeChar_of_ascii (h c hc),
    ← List.flatMap_def, ← List.map_eq_flatMap]

/-! ### Bytes behind bytes -/

/-- The bytes end behind a character, and not inside one. -/
def EndsWhole (bytes : Bytes) : Prop :=
  (run .start bytes).2 = .start

instance (bytes : Bytes) : Decidable (EndsWhole bytes) :=
  inferInstanceAs (Decidable (_ = _))

/-- Behind a character the reader starts afresh. -/
theorem decode_append {a : Bytes} (h : EndsWhole a) (b : Bytes) :
    decode (a ++ b) = decode a ++ decode b := by
  have ha : decode a = (run .start a).1 := by
    have hnil := decodeFrom_append .start a []
    rw [List.append_nil, h] at hnil
    rw [decode, hnil]
    exact List.append_nil _
  rw [decode, decodeFrom_append, h, ha]
  rfl

/-- A text that was written is read, and the reader is then before the next character. -/
theorem run_encode (cs : List Char) : run .start (encode cs) = (cs, .start) := by
  induction cs with
  | nil => rfl
  | cons c cs ih =>
    rw [encode, List.flatMap_cons, ← encode, run_append, run_encodeChar, ih]
    rfl

/-- A text that was written is read back, whatever follows. -/
theorem decode_encode_append (cs : List Char) (rest : Bytes) :
    decode (encode cs ++ rest) = cs ++ decode rest := by
  rw [decode, decodeFrom_append, run_encode]
  rfl

/-- Reading a text that was written gives it back. -/
theorem decode_encode (cs : List Char) : decode (encode cs) = cs := by
  have h := decode_encode_append cs []
  rwa [List.append_nil, show decode [] = [] from rfl, List.append_nil] at h

/-! ### A character behind any bytes -/

/-- In the state only bytes from within a character go on with the character. -/
def State.IsProper : State → Prop
  | .start => True
  | .inside _ _ low high => 0x80 ≤ low ∧ high ≤ 0xBF

instance (state : State) : Decidable state.IsProper :=
  match state with
  | .start => isTrue trivial
  | .inside _ _ low high => inferInstanceAs (Decidable (0x80 ≤ low ∧ high ≤ 0xBF))

theorem isProper_first (b : UInt8) : (first b).2.IsProper := by
  have key : ∀ n < 256, (first (UInt8.ofNat n)).2.IsProper := by decide +kernel
  have h := key b.toNat b.toNat_lt
  rwa [UInt8.ofNat_toNat] at h

theorem isProper_step {state : State} (h : state.IsProper) (b : UInt8) :
    (step state b).2.IsProper := by
  cases state with
  | start => exact isProper_first b
  | inside missing value low high =>
    rw [step]
    split
    · dsimp only
      split
      · trivial
      · exact ⟨by decide, by decide⟩
    · exact isProper_first b

/-- The first byte of a character never stands within one. -/
theorem exists_utf8EncodeChar_cons (c : Char) :
    ∃ b rest, String.utf8EncodeChar c = b :: rest ∧ (b < 0x80 ∨ 0xBF < b) := by
  have hvalid := c.valid
  rw [UInt32.isValidChar, Nat.isValidChar] at hvalid
  have hlead : ∀ n, 0xC0 ≤ n → n < 256 → 0xBF < UInt8.ofNat n := by
    intro n hlow hhigh
    rw [UInt8.lt_iff_toNat_lt, toNat_byte hhigh]
    exact hlow
  rw [String.utf8EncodeChar]
  -- One case for each number of bytes.
  split
  · next hone =>
    refine ⟨_, _, rfl, Or.inl ?_⟩
    rw [UInt8.lt_iff_toNat_lt, toNat_byte (by omega)]
    exact Nat.lt_succ_of_le hone
  split
  · exact ⟨_, _, rfl, Or.inr (hlead _ (by omega) (by omega))⟩
  split
  · exact ⟨_, _, rfl, Or.inr (hlead _ (by omega) (by omega))⟩
  · exact ⟨_, _, rfl, Or.inr (hlead _ (by omega) (by omega))⟩

/-- A character that is cut off by the next one is replaced, and the next one is read. -/
theorem decodeFrom_encodeChar_of_isProper {state : State} (h : state.IsProper) (c : Char)
    (rest : Bytes) :
    decodeFrom state (String.utf8EncodeChar c ++ rest) =
      decodeFrom state [] ++ c :: decode rest := by
  cases state with
  | start => exact decodeFrom_encodeChar c rest
  | inside missing value low high =>
    have hchar := decodeFrom_encodeChar c rest
    obtain ⟨b, bytes, hbytes, hb⟩ := exists_utf8EncodeChar_cons c
    have hout : ¬(low ≤ b ∧ b ≤ high) := by
      rintro ⟨hlow, hhigh⟩
      rcases hb with hb | hb
      · exact absurd (UInt8.le_trans h.1 hlow) (UInt8.not_le.2 hb)
      · exact absurd (UInt8.le_trans hhigh h.2) (UInt8.not_le.2 hb)
    rw [hbytes, List.cons_append, decodeFrom_cons] at hchar ⊢
    rw [step, if_neg hout]
    exact congrArg (replacementChar :: ·) hchar

/-- A character and all that follows is read on its own, also behind bytes that end inside
a character. -/
theorem decode_append_encodeChar (a : Bytes) (c : Char) (rest : Bytes) :
    decode (a ++ (String.utf8EncodeChar c ++ rest)) = decode a ++ c :: decode rest := by
  have key : ∀ (a : Bytes) (state : State), state.IsProper →
      decodeFrom state (a ++ (String.utf8EncodeChar c ++ rest)) =
        decodeFrom state a ++ c :: decode rest := by
    intro a
    induction a with
    | nil => exact fun state h => decodeFrom_encodeChar_of_isProper h c rest
    | cons x a ih =>
      intro state h
      rw [List.cons_append, decodeFrom_cons, decodeFrom_cons, ih _ (isProper_step h x),
        List.append_assoc]
  exact key a .start trivial

/-! ### Bytes that go on with a character -/

/-- In the state the next byte goes on with a character. -/
def State.GoesOn : State → Bytes → Prop
  | .inside _ _ low high, b :: _ => low ≤ b ∧ b ≤ high
  | _, _ => False

instance (state : State) (bytes : Bytes) : Decidable (state.GoesOn bytes) :=
  match state, bytes with
  | .inside _ _ low high, b :: _ => inferInstanceAs (Decidable (low ≤ b ∧ b ≤ high))
  | .inside .., [] => isFalse id
  | .start, _ => isFalse id

/-- The first bytes end inside a character, and the second ones go on with it. -/
def GoesOn (a b : Bytes) : Prop :=
  (run .start a).2.GoesOn b

instance (a b : Bytes) : Decidable (GoesOn a b) :=
  inferInstanceAs (Decidable (State.GoesOn _ _))

theorem isProper_run {state : State} (h : state.IsProper) (bytes : Bytes) :
    (run state bytes).2.IsProper := by
  induction bytes generalizing state with
  | nil => exact h
  | cons b bytes ih => exact ih (isProper_step h b)

/-- Bytes that do not go on with a character are read on their own. -/
theorem decodeFrom_of_not_goesOn {state : State} {bytes : Bytes} (h : ¬state.GoesOn bytes) :
    decodeFrom state bytes = decodeFrom state [] ++ decode bytes := by
  match state, bytes with
  | .start, _ => rfl
  | .inside .., [] => rfl
  | .inside missing value low high, b :: rest =>
    have hout : ¬(low ≤ b ∧ b ≤ high) := h
    rw [decodeFrom_cons, step, if_neg hout]
    rfl

/-- Read on its own, a byte that goes on with a character is replaced. -/
theorem decode_of_goesOn {state : State} (h : state.IsProper) {b : UInt8} {rest : Bytes}
    (hgo : state.GoesOn (b :: rest)) : decode (b :: rest) = replacementChar :: decode rest := by
  have key : ∀ n < 256, 0x80 ≤ n → n ≤ 0xBF →
      first (UInt8.ofNat n) = ([replacementChar], .start) := by decide +kernel
  have hfirst : first b = ([replacementChar], .start) := by
    cases state with
    | start => exact absurd hgo id
    | inside missing value low high =>
      have hb := key b.toNat b.toNat_lt (UInt8.le_iff_toNat_le.1 (UInt8.le_trans h.1 hgo.1))
        (UInt8.le_iff_toNat_le.1 (UInt8.le_trans hgo.2 h.2))
      rwa [UInt8.ofNat_toNat] at hb
  rw [decode, decodeFrom_cons, step, hfirst]
  rfl

/-- Bytes that go on with a character give no more than they give on their own. -/
theorem length_decodeFrom_le {state : State} (h : state.IsProper) {bytes : Bytes}
    (hgo : state.GoesOn bytes) : (decodeFrom state bytes).length ≤ (decode bytes).length := by
  -- Each byte that goes on saves its replacement, and at most one is due at the end.
  induction bytes generalizing state with
  | nil => cases state <;> exact absurd hgo id
  | cons b rest ih =>
    rw [decode_of_goesOn h hgo, decodeFrom_cons, List.length_append, List.length_cons]
    cases state with
    | start => exact absurd hgo id
    | inside missing value low high =>
      have hin : low ≤ b ∧ b ≤ high := hgo
      rw [step, if_pos hin]
      dsimp only
      split
      · show 1 + (decode rest).length ≤ _
        omega
      · show 0 + (decodeFrom (.inside _ _ 0x80 0xBF) rest).length ≤ _
        generalize hnext : State.inside _ _ 0x80 0xBF = next
        have hproper : next.IsProper := hnext ▸ ⟨by decide, by decide⟩
        by_cases hgo' : next.GoesOn rest
        · have hle := ih hproper hgo'
          omega
        · have hone : (decodeFrom next []).length = 1 := hnext ▸ rfl
          rw [decodeFrom_of_not_goesOn hgo', List.length_append, hone]
          omega

theorem decode_eq_run (bytes : Bytes) :
    decode bytes = (run .start bytes).1 ++ decodeFrom (run .start bytes).2 [] := by
  rw [← decodeFrom_append, List.append_nil]
  rfl

/-- Bytes are read in two parts if the second does not go on with a character of the first. -/
theorem decode_append_of_not_goesOn {a b : Bytes} (h : ¬GoesOn a b) :
    decode (a ++ b) = decode a ++ decode b := by
  rw [decode, decodeFrom_append, decodeFrom_of_not_goesOn h, decode_eq_run a, List.append_assoc]

/-- A character that is read across the cut is one character less than its two parts give. -/
theorem length_decode_append_lt {a b : Bytes} (h : GoesOn a b) :
    (decode (a ++ b)).length < (decode a).length + (decode b).length := by
  have hstart : State.start.IsProper := trivial
  have hle := length_decodeFrom_le (isProper_run hstart a) h
  have hone : (decodeFrom (run .start a).2 []).length = 1 := by
    rw [GoesOn] at h
    cases hstate : (run .start a).2 with
    | start =>
      rw [hstate] at h
      exact absurd h id
    | inside => rfl
  rw [decode_eq_run a, decode, decodeFrom_append, List.length_append, List.length_append, hone]
  omega

theorem length_decode_append_le (a b : Bytes) :
    (decode (a ++ b)).length ≤ (decode a).length + (decode b).length := by
  by_cases h : GoesOn a b
  · exact Nat.le_of_lt (length_decode_append_lt h)
  · exact Nat.le_of_eq (by rw [decode_append_of_not_goesOn h, List.length_append])

theorem length_decode_singleton (b : UInt8) : (decode [b]).length = 1 := by
  have key : ∀ n < 256, (decode [UInt8.ofNat n]).length = 1 := by decide +kernel
  have h := key b.toNat b.toNat_lt
  rwa [UInt8.ofNat_toNat] at h

end HttpInterface.Charset.Utf8
