import HttpInterface.Charset
import HttpInterface.Proofs.Charset.Utf8
import Mathlib.Data.List.Basic
import Mathlib.Data.List.TakeWhile

/-!
# `HttpInterface.Proofs.Charset`: which texts a charset can write

Whether a text can be written depends on its characters one by one (`writes_iff`), so a text that
is put together can be written exactly if its parts can. UTF-8 and the tables write an ASCII
character as the byte that is its number (`KeepsAscii`, `keepsAscii_iff`). The others do not: a
mark stands in front, or each character takes two bytes.

A table has one byte for each of its characters, and reads this byte as the character
(`SingleByte.char?_of_byte?`). A text has bytes exactly if each of its characters has one
(`SingleByte.encode_eq_ok`), so it may be cut anywhere, and its bytes are read back as the text
(`SingleByte.decode_of_encode`).
-/

set_option autoImplicit false

namespace HttpInterface.Charset.SingleByte

variable {table : SingleByte}

/-! ### One character -/

theorem toNat_ofNat {c : Char} (h : c.toNat < 0x100) : (UInt8.ofNat c.toNat).toNat = c.toNat :=
  Utf8.toNat_byte h

theorem lt_ofNat {c : Char} (h : c.toNat < 0x80) : UInt8.ofNat c.toNat < 0x80 := by
  rw [UInt8.lt_iff_toNat_lt, toNat_ofNat (Nat.lt_trans h (by decide))]
  exact h

theorem byte?_of_ascii {c : Char} (h : c.toNat < 0x80) :
    table.byte? c = some (UInt8.ofNat c.toNat) := by
  cases table with
  | ascii => exact if_pos h
  | latin1 => exact if_pos (by omega)
  | windows1252 => exact if_pos (Or.inl h)

theorem char?_of_ascii {b : UInt8} (h : b < 0x80) : table.char? b = some (Char.ofNat b.toNat) := by
  cases table with
  | ascii => exact if_pos h
  | latin1 => rfl
  | windows1252 => rw [char?, if_pos (Or.inl h)]

/-- The entries of the block between the two halves that are read as they are. -/
theorem char?_of_block {n i : Nat} (h : windows1252Block.idxOf? n = some i) (hn : n ≠ 0) :
    windows1252.char? (UInt8.ofNat (0x80 + i)) = some (Char.ofNat n) := by
  obtain ⟨hlt, hget, -⟩ := List.idxOf?_eq_some_iff.1 h
  have hi : i < 0x20 := hlt
  have hb : (UInt8.ofNat (0x80 + i)).toNat = 0x80 + i := Utf8.toNat_byte (by omega)
  have hout : ¬(UInt8.ofNat (0x80 + i) < 0x80 ∨ 0xA0 ≤ UInt8.ofNat (0x80 + i)) := by
    rw [UInt8.lt_iff_toNat_lt, UInt8.le_iff_toNat_le, hb]
    show ¬(0x80 + i < 0x80 ∨ 0xA0 ≤ 0x80 + i)
    omega
  have hentry : windows1252Block[0x80 + i - 0x80]? = some n := by
    rw [Nat.add_sub_cancel_left, List.getElem?_eq_getElem hlt, hget]
  rw [char?, if_neg hout, hb, hentry]
  split
  · next hnone => exact nomatch hnone
  · next hzero => exact absurd (Option.some.inj hzero) hn
  · next m _ hm => rw [Option.some.inj hm]

/-- The byte of a character is read as the character. -/
theorem char?_of_byte? {c : Char} {b : UInt8} (h : table.byte? c = some b) :
    table.char? b = some c := by
  -- A byte that is the number of the character is read as it in each of the tables.
  have hself : c.toNat < 0x100 → Char.ofNat (UInt8.ofNat c.toNat).toNat = c := fun hc => by
    rw [toNat_ofNat hc, Char.ofNat_toNat]
  cases table with
  | ascii =>
    rw [byte?] at h
    split at h
    · next hc =>
      obtain rfl := Option.some.inj h
      rw [char?_of_ascii (lt_ofNat hc), hself (Nat.lt_trans hc (by decide))]
    · exact nomatch h
  | latin1 =>
    rw [byte?] at h
    split at h
    · next hc =>
      obtain rfl := Option.some.inj h
      rw [char?, hself hc]
    · exact nomatch h
  | windows1252 =>
    rw [byte?] at h
    split at h
    · next hc =>
      obtain rfl := Option.some.inj h
      have hlt : c.toNat < 0x100 := by omega
      have hb : UInt8.ofNat c.toNat < 0x80 ∨ 0xA0 ≤ UInt8.ofNat c.toNat := by
        rw [UInt8.lt_iff_toNat_lt, UInt8.le_iff_toNat_le, toNat_ofNat hlt]
        exact hc.imp_right And.left
      rw [char?, if_pos hb, hself hlt]
    split at h
    · exact nomatch h
    · next hlarge =>
      obtain ⟨i, hi, rfl⟩ := Option.map_eq_some_iff.1 h
      rw [char?_of_block hi (by omega), Char.ofNat_toNat]

/-! ### A whole text -/

/-- A text whose characters have bytes has these bytes. -/
theorem encode_of_isSome {cs : List Char} (h : ∀ c ∈ cs, (table.byte? c).isSome = true) :
    table.encode cs = .ok (cs.filterMap table.byte?) := by
  have hdrop : cs.dropWhile (fun c => (table.byte? c).isSome) = [] := List.dropWhile_eq_nil_iff.2 h
  simp only [encode, hdrop]

theorem isSome_of_encode {cs : List Char} {bytes : Bytes} (h : table.encode cs = .ok bytes) :
    ∀ c ∈ cs, (table.byte? c).isSome = true := by
  rw [encode] at h
  dsimp only at h
  split at h
  · next hdrop => exact List.dropWhile_eq_nil_iff.1 hdrop
  · cases h

/-- A text has bytes exactly if each of its characters has one. -/
theorem encode_eq_ok {cs : List Char} {bytes : Bytes} :
    table.encode cs = .ok bytes ↔ cs.map table.byte? = bytes.map some := by
  constructor
  · intro h
    have hsome := isSome_of_encode h
    rw [encode_of_isSome hsome] at h
    rw [← Except.ok.inj h, List.map_filterMap, ← List.filterMap_eq_map]
    refine List.filterMap_congr fun c hc => ?_
    obtain ⟨b, hb⟩ := Option.isSome_iff_exists.1 (hsome c hc)
    rw [Function.comp, hb]
    rfl
  · intro h
    have hsome : ∀ c ∈ cs, (table.byte? c).isSome = true := by
      intro c hc
      have hmem : table.byte? c ∈ bytes.map some := h ▸ List.mem_map_of_mem hc
      obtain ⟨b, -, hb⟩ := List.mem_map.1 hmem
      rw [← hb]
      rfl
    have hbytes : cs.filterMap table.byte? = bytes := by
      have hfilter := congrArg (List.filterMap id) h
      rwa [List.filterMap_map, List.filterMap_map, Function.id_comp, Function.id_comp,
        List.filterMap_some] at hfilter
    rw [encode_of_isSome hsome, hbytes]

/-- A text that was written is read back. -/
theorem decode_of_encode {cs : List Char} {bytes : Bytes} (h : table.encode cs = .ok bytes) :
    table.decode bytes = cs := by
  rw [encode_eq_ok] at h
  induction cs generalizing bytes with
  | nil =>
    rw [List.map_nil, eq_comm, List.map_eq_nil_iff] at h
    rw [h]
    rfl
  | cons c cs ih =>
    rw [List.map_cons, eq_comm, List.map_eq_cons_iff] at h
    obtain ⟨b, rest, rfl, hb, hrest⟩ := h
    rw [decode, List.map_cons, char?_of_byte? hb.symm, ← decode, ih hrest.symm]
    rfl

end HttpInterface.Charset.SingleByte

namespace HttpInterface.Charset

variable {c : Charset} {name : String}

/-- The charset of the name has bytes for the text. -/
def Writes (name : String) (cs : List Char) : Prop :=
  ∃ bytes, encode name cs = .ok bytes

instance (name : String) (cs : List Char) : Decidable (Writes name cs) :=
  match h : encode name cs with
  | .ok bytes => isTrue ⟨bytes, h⟩
  | .error _ => isFalse fun ⟨bytes, hbytes⟩ => by
    rw [h] at hbytes
    exact nomatch hbytes

/-- The charset has bytes for the character. -/
def Has : Charset → Char → Prop
  | .singleByte table, ch => (table.byte? ch).isSome = true
  | .rot13, _ => False
  | _, _ => True

/-- A text of ASCII characters is written as their numbers. -/
def KeepsAscii (c : Charset) : Prop :=
  ∀ (name : String) (cs : List Char), (∀ ch ∈ cs, ch.toNat < 0x80) →
    c.encodeAs name cs = .ok (cs.map fun ch => UInt8.ofNat ch.toNat)

theorem encode_eq (h : lookUp name = .ok c) (cs : List Char) :
    encode name cs = c.encodeAs name cs := by
  rw [encode, h]
  rfl

theorem decode_eq (h : lookUp name = .ok c) (bytes : Bytes) :
    decode name bytes = c.decodeAs name bytes := by
  rw [decode, h]
  rfl

/-- Two names of one charset write alike. -/
theorem encodeAs_congr (h : c ≠ .rot13) (name other : String) (cs : List Char) :
    c.encodeAs name cs = c.encodeAs other cs := by
  cases c with
  | rot13 => exact absurd rfl h
  | _ => rfl

/-- Two names of one charset read alike. -/
theorem decodeAs_congr (h : c ≠ .rot13) (name other : String) (bytes : Bytes) :
    c.decodeAs name bytes = c.decodeAs other bytes := by
  cases c with
  | rot13 => exact absurd rfl h
  | _ => rfl

/-! ### Character by character -/

/-- A text can be written if each of its characters can. -/
theorem writes_iff (h : lookUp name = .ok c) (hbytes : c ≠ .rot13) {cs : List Char} :
    Writes name cs ↔ ∀ ch ∈ cs, c.Has ch := by
  rw [Writes, encode_eq h]
  cases c with
  | rot13 => exact absurd rfl hbytes
  | singleByte table =>
    rw [encodeAs]
    constructor
    · rintro ⟨bytes, hwrite⟩
      cases hencode : table.encode cs with
      | error gap =>
        rw [hencode] at hwrite
        exact nomatch hwrite
      | ok bytes' => exact SingleByte.isSome_of_encode hencode
    · intro hhas
      rw [SingleByte.encode_of_isSome hhas]
      exact ⟨_, rfl⟩
  | _ => exact ⟨fun _ _ _ => trivial, fun _ => ⟨_, rfl⟩⟩

/-! ### ASCII -/

/-- UTF-8 and the tables are the charsets that keep ASCII. -/
theorem keepsAscii_iff : c.KeepsAscii ↔ c = .utf8 ∨ ∃ table, c = .singleByte table := by
  constructor
  · intro h
    -- The empty text shows a mark, and a character of its own shows two bytes.
    have hempty := h "" [] (fun _ hmem => absurd hmem List.not_mem_nil)
    have hone := h "" ['a'] fun ch hmem => by
      rw [List.mem_singleton.1 hmem]
      decide
    cases c with
    | utf8 => exact Or.inl rfl
    | singleByte table => exact Or.inr ⟨table, rfl⟩
    | utf16Plain order => cases order <;> exact absurd hone (by decide)
    | _ => exact absurd hempty (by decide)
  · rintro (rfl | ⟨table, rfl⟩) name cs hascii
    · rw [encodeAs, Utf8.encode_of_ascii hascii]
    · have hbytes : table.encode cs = .ok (cs.map fun ch => UInt8.ofNat ch.toNat) := by
        rw [SingleByte.encode_eq_ok, List.map_map]
        exact List.map_congr_left fun ch hmem => SingleByte.byte?_of_ascii (hascii ch hmem)
      rw [encodeAs, hbytes]

instance (c : Charset) : Decidable c.KeepsAscii :=
  match c with
  | .utf8 => isTrue (keepsAscii_iff.2 (Or.inl rfl))
  | .singleByte table => isTrue (keepsAscii_iff.2 (Or.inr ⟨table, rfl⟩))
  | .utf8Marked | .utf16 | .utf16Plain _ | .rot13 =>
    isFalse fun h => by simpa using keepsAscii_iff.1 h

theorem KeepsAscii.ne_rot13 (h : c.KeepsAscii) : c ≠ .rot13 := by
  rintro rfl
  exact absurd h (by decide)

/-- A charset that keeps ASCII has all of it. -/
theorem KeepsAscii.has (h : c.KeepsAscii) {ch : Char} (hch : ch.toNat < 0x80) : c.Has ch := by
  rcases keepsAscii_iff.1 h with rfl | ⟨table, rfl⟩
  · trivial
  · rw [Has, SingleByte.byte?_of_ascii hch]
    rfl

/-- A charset with bytes that does not keep ASCII has every character. -/
theorem has_of_not_keepsAscii (h : ¬c.KeepsAscii) (hbytes : c ≠ .rot13) (ch : Char) : c.Has ch := by
  cases c with
  | singleByte table => exact absurd (keepsAscii_iff.2 (Or.inr ⟨table, rfl⟩)) h
  | rot13 => exact absurd rfl hbytes
  | _ => trivial

end HttpInterface.Charset
