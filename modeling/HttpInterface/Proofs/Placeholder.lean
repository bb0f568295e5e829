import HttpInterface.Placeholder
import HttpInterface.Proofs.List
import HttpInterface.Proofs.Text.Split

/-!
# `HttpInterface.Proofs.Placeholder`: scanning piece by piece

A character that is neither a brace nor part of a name ends whatever could have
become a placeholder before it. So a text may be cut at such a character and its
two sides scanned on their own (`scan_append`). More generally it may be cut wherever
no name is closed at the front of what follows (`scan_append_of_closeName`). What
holds of scanning holds of all that is made from it: the names (`slots_append`) and
the filled text, which is filled part by part (`filled_joinWith`).

`substituteM` is the filling that may fail; it is `substitute` where no name of
the text fails (`substituteM_eq_ok`).
-/

set_option autoImplicit false

namespace HttpInterface.Placeholder

/-- A character that no placeholder holds: no brace, and in no name. -/
def isPlain (c : Char) : Bool :=
  c != '{' && c != '}' && !isNameChar c

/-- Names are made of visible ASCII characters. -/
theorem toNat_of_isNameChar {c : Char} (h : isNameChar c = true) :
    0x21 ≤ c.toNat ∧ c.toNat ≤ 0x7E := by
  have hrange : ∀ low high : Char, 0x21 ≤ low.toNat → high.toNat ≤ 0x7E →
      low.val ≤ c.val ∧ c.val ≤ high.val → 0x21 ≤ c.toNat ∧ c.toNat ≤ 0x7E :=
    fun low high hlow hhigh hc => ⟨Nat.le_trans hlow hc.1, Nat.le_trans hc.2 hhigh⟩
  have halnum : c.isAlphanum = ((c.isUpper || c.isLower) || c.isDigit) := rfl
  have hbetween : ∀ low high : UInt32, (decide (c.val ≥ low) && decide (c.val ≤ high)) = true →
      low ≤ c.val ∧ c.val ≤ high := fun low high h =>
    (Bool.and_eq_true_iff.1 h).imp of_decide_eq_true of_decide_eq_true
  simp only [isNameChar, halnum, Bool.or_eq_true, beq_iff_eq] at h
  rcases h with ((((h | h) | h) | rfl) | rfl) | rfl
  · exact hrange 'A' 'Z' (by decide) (by decide) (of_decide_eq_true h)
  · exact hrange 'a' 'z' (by decide) (by decide) (hbetween _ _ h)
  · exact hrange '0' '9' (by decide) (by decide) (hbetween _ _ h)
  · decide
  · decide
  · decide

theorem scan_cons (c : Char) (cs : List Char) : scan (c :: cs) = attach c (scan cs) := rfl

theorem attach_of_ne {c : Char} (h : c ≠ '{') (pieces : List Piece) :
    attach c pieces = .char c :: pieces := by
  rw [attach, if_neg h]

/-! ### Cutting -/

section

variable {rest : List Piece} (hrest : closeName rest = none)
include hrest

/-- No name is closed across a cut if none is closed at the front of what follows it. -/
theorem closeName_append (front : List Piece) :
    closeName (front ++ rest) = (closeName front).map fun p => (p.1, p.2 ++ rest) := by
  induction front with
  | nil => exact hrest
  | cons p front ih =>
    cases p with
    | slot name => rfl
    | char d =>
      rw [List.cons_append, closeName, closeName]
      -- A closing brace ends the name, another character of a name goes on with it, and
      -- anything else stops the search, in front of the cut in each case.
      by_cases hclose : d = '}'
      · simp [hclose]
      · by_cases hname : isNameChar d = true
        · simp only [hclose, hname, if_false, if_true, ih, Option.map_map]
          rfl
        · simp [hclose, hname]

theorem attach_append (d : Char) (front : List Piece) :
    attach d (front ++ rest) = attach d front ++ rest := by
  by_cases hd : d = '{'
  · simp only [attach, if_pos hd, closeName_append hrest]
    cases hclose : closeName front with
    | none => rfl
    | some p =>
      obtain ⟨name, behind⟩ := p
      cases name <;> rfl
  · rw [attach_of_ne hd, attach_of_ne hd, List.cons_append]

end

/-- The two sides of a cut are scanned on their own if no name is closed at the front of
the second. -/
theorem scan_append_of_closeName {b : List Char} (hb : closeName (scan b) = none) (a : List Char) :
    scan (a ++ b) = scan a ++ scan b := by
  induction a with
  | nil => rfl
  | cons d a ih => rw [List.cons_append, scan_cons, ih, attach_append hb, scan_cons]

section

variable {c : Char} (hc : isPlain c = true)
include hc

theorem isPlain_ne_open : c ≠ '{' := by
  rintro rfl
  exact absurd hc (by decide)

theorem scan_cons_of_isPlain (cs : List Char) : scan (c :: cs) = .char c :: scan cs := by
  rw [scan_cons, attach_of_ne (isPlain_ne_open hc)]

theorem closeName_of_isPlain (rest : List Piece) : closeName (.char c :: rest) = none := by
  simp only [isPlain, Bool.and_eq_true, bne_iff_ne, Bool.not_eq_true'] at hc
  simp [closeName, hc.1.2, hc.2]

/-- The two sides of a plain character are scanned on their own. -/
theorem scan_append (a b : List Char) : scan (a ++ c :: b) = scan a ++ .char c :: scan b := by
  have hclose : closeName (scan (c :: b)) = none := by
    rw [scan_cons_of_isPlain hc]
    exact closeName_of_isPlain hc (scan b)
  rw [scan_append_of_closeName hclose, scan_cons_of_isPlain hc]

end

/-- A front without an opening brace is plain, whatever follows it. -/
theorem scan_append_of_not_mem {front : List Char} (h : '{' ∉ front) (cs : List Char) :
    scan (front ++ cs) = front.map .char ++ scan cs := by
  induction front with
  | nil => rfl
  | cons c r ih =>
    rw [List.mem_cons, not_or] at h
    rw [List.cons_append, scan_cons, ih h.2, attach_of_ne (Ne.symm h.1), List.map_cons,
      List.cons_append]

/-! ### Names -/

/-- The placeholders among characters, each as often as it occurs. -/
def slots (cs : List Char) : List String :=
  (scan cs).filterMap Piece.name?

theorem occurrences_eq (text : String) : occurrences text = slots text.toList := rfl

theorem slots_append {c : Char} (hc : isPlain c = true) (a b : List Char) :
    slots (a ++ c :: b) = slots a ++ slots b := by
  rw [slots, scan_append hc, List.filterMap_append, List.filterMap_cons]
  rfl

theorem slots_joinWith {sep : Char} (hsep : isPlain sep = true) (parts : List (List Char)) :
    slots (Text.joinWith sep parts) = parts.flatMap slots := by
  induction parts with
  | nil => rfl
  | cons p rest ih =>
    cases rest with
    | nil => simp [Text.joinWith]
    | cons q rest =>
      rw [Text.joinWith_cons_cons, slots_append hsep, ih]
      rfl

/-- The parts between separators have the names of the whole text. -/
theorem slots_splitOn {sep : Char} (hsep : isPlain sep = true) (cs : List Char) :
    (Text.splitOn sep cs).flatMap slots = slots cs := by
  rw [← slots_joinWith hsep, Text.joinWith_splitOn]

/-- The two sides of the first separator have the names of the whole text. -/
theorem slots_cut {sep : Char} (hsep : isPlain sep = true) (cs : List Char) :
    slots (Text.cut sep cs).1 ++ (Text.cut sep cs).2.elim [] slots = slots cs := by
  rcases Text.cut_cases sep cs with ⟨-, hcut⟩ | ⟨a, b, rfl, -, hcut⟩
  · rw [hcut, Option.elim_none, List.append_nil]
  · rw [hcut, Option.elim_some, slots_append hsep]

theorem slots_append_of_not_mem {front : List Char} (h : '{' ∉ front) (cs : List Char) :
    slots (front ++ cs) = slots cs := by
  rw [slots, scan_append_of_not_mem h, List.filterMap_append, List.filterMap_map]
  exact congrArg (· ++ slots cs) (List.filterMap_eq_nil_iff.2 fun _ _ => rfl)

/-- Without an opening brace there is no placeholder. -/
theorem slots_of_not_mem {cs : List Char} (h : '{' ∉ cs) : slots cs = [] := by
  have hslots := slots_append_of_not_mem h []
  rwa [List.append_nil] at hslots

theorem mem_names {text name : String} : name ∈ names text ↔ name ∈ occurrences text :=
  List.mem_eraseDups

theorem mem_namesIn {texts : List String} {name : String} :
    name ∈ namesIn texts ↔ ∃ text ∈ texts, name ∈ occurrences text := by
  rw [namesIn, List.mem_eraseDups, List.mem_flatMap]

theorem nodup_namesIn (texts : List String) : (namesIn texts).Nodup :=
  nodup_eraseDups _

theorem occursIn_iff {text : String} : occursIn text = true ↔ ∃ name, name ∈ occurrences text := by
  rw [occursIn, Bool.not_eq_true', List.isEmpty_eq_false_iff_exists_mem]

theorem pieces_of_only? {text name : String} (h : only? text = some name) :
    pieces text = [.slot name] := by
  unfold only? at h
  split at h
  · next hp => rw [hp, Option.some.inj h]
  · exact nomatch h

theorem occurrences_of_only? {text name : String} (h : only? text = some name) :
    occurrences text = [name] := by
  rw [occurrences, pieces_of_only? h]
  rfl

/-! ### Filling -/

/-- What a piece becomes when `f name` stands for every placeholder `name`. -/
def Piece.filled (f : String → String) : Piece → List Char
  | .char c => [c]
  | .slot name => (f name).toList

/-- Characters with `f name` in the place of every placeholder `name`. -/
def filled (f : String → String) (cs : List Char) : List Char :=
  (scan cs).flatMap (Piece.filled f)

theorem substitute_eq (f : String → String) (text : String) :
    substitute f text = String.ofList (filled f text.toList) := by
  refine congrArg (fun fill => String.ofList ((pieces text).flatMap fill)) (funext fun p => ?_)
  cases p <;> rfl

theorem toList_substitute (f : String → String) (text : String) :
    (substitute f text).toList = filled f text.toList := by
  rw [substitute_eq, String.toList_ofList]

/-- Only the names of a text count for filling it. -/
theorem filled_congr {f g : String → String} {cs : List Char}
    (h : ∀ name ∈ slots cs, f name = g name) : filled f cs = filled g cs := by
  have hpieces : ∀ p ∈ scan cs, p.filled f = p.filled g := by
    intro p hp
    cases p with
    | char c => rfl
    | slot name => exact congrArg String.toList (h name (List.mem_filterMap.2 ⟨_, hp, rfl⟩))
  rw [filled, filled, List.flatMap_def, List.flatMap_def, List.map_congr_left hpieces]

/-- Filling leaves a text without placeholders as it is. -/
theorem filled_of_slots {f : String → String} {cs : List Char} (h : slots cs = []) :
    filled f cs = cs := by
  have hpieces : ∀ p ∈ scan cs, p.filled f = p.chars := by
    intro p hp
    cases p with
    | char c => rfl
    | slot name =>
      have hmem : name ∈ slots cs := List.mem_filterMap.2 ⟨_, hp, rfl⟩
      rw [h] at hmem
      exact absurd hmem List.not_mem_nil
  rw [filled, List.flatMap_def, List.map_congr_left hpieces, ← List.flatMap_def,
    flatMap_chars_scan]

theorem filled_append {c : Char} (hc : isPlain c = true) (f : String → String)
    (a b : List Char) : filled f (a ++ c :: b) = filled f a ++ c :: filled f b := by
  rw [filled, scan_append hc, List.flatMap_append, List.flatMap_cons]
  rfl

/-- A text joined at a plain character is filled part by part. -/
theorem filled_joinWith {sep : Char} (hsep : isPlain sep = true) (f : String → String)
    (parts : List (List Char)) :
    filled f (Text.joinWith sep parts) = Text.joinWith sep (parts.map (filled f)) := by
  induction parts with
  | nil => rfl
  | cons p rest ih =>
    cases rest with
    | nil => rfl
    | cons q rest =>
      rw [Text.joinWith_cons_cons, filled_append hsep, ih]
      rfl

/-- A filled text holds nothing but its own plain characters and what fills it. -/
theorem mem_filled {f : String → String} {cs : List Char} {c : Char} (h : c ∈ filled f cs) :
    c ∈ cs ∨ ∃ name ∈ slots cs, c ∈ (f name).toList := by
  obtain ⟨p, hp, hc⟩ := List.mem_flatMap.1 h
  cases p with
  | char d =>
    have hd : c = d := List.mem_singleton.1 hc
    subst hd
    left
    rw [← flatMap_chars_scan cs]
    exact List.mem_flatMap.2 ⟨_, hp, List.mem_singleton.2 rfl⟩
  | slot name => exact Or.inr ⟨name, List.mem_filterMap.2 ⟨_, hp, rfl⟩, hc⟩

/-- What fills a text adds no separator: the parts of the filled text are the filled
parts. -/
theorem splitOn_filled {sep : Char} (hsep : isPlain sep = true) {f : String → String}
    {cs : List Char} (hf : ∀ name, sep ∉ (f name).toList) :
    Text.splitOn sep (filled f cs) = (Text.splitOn sep cs).map (filled f) := by
  have hjoin : filled f cs = Text.joinWith sep ((Text.splitOn sep cs).map (filled f)) := by
    rw [← filled_joinWith hsep, Text.joinWith_splitOn]
  rw [hjoin, Text.splitOn_joinWith (by simpa using Text.splitOn_ne_nil sep cs)]
  intro part hpart hmem
  obtain ⟨raw, hraw, rfl⟩ := List.mem_map.1 hpart
  rcases mem_filled hmem with hmem | ⟨name, -, hmem⟩
  · exact Text.not_mem_of_mem_splitOn hraw hmem
  · exact hf name hmem

/-- Where no placeholder of the text fails, filling it does not fail. -/
theorem substituteM_eq_ok {ε : Type} {f : String → Except ε String} {g : String → String}
    {text : String} (h : ∀ name ∈ occurrences text, f name = .ok (g name)) :
    substituteM f text = .ok (substitute g text) := by
  rw [substituteM, substitute_eq, mapM_eq_ok (g := Piece.filled g)]
  · show Except.ok (String.ofList ((pieces text).map (Piece.filled g)).flatten) = _
    rw [← List.flatMap_def]
    rfl
  · intro p hp
    cases p with
    | char c => rfl
    | slot name =>
      show String.toList <$> f name = _
      rw [h name (List.mem_filterMap.2 ⟨_, hp, rfl⟩)]
      rfl

/-- Where filling a text fails, one of its placeholders fails. -/
theorem exists_of_substituteM_eq_error {ε : Type} {f : String → Except ε String} {text : String}
    {e : ε} (h : substituteM f text = .error e) : ∃ name ∈ occurrences text, f name = .error e := by
  rw [substituteM] at h
  rcases bind_eq_error.1 h with h | ⟨_, -, h⟩
  · obtain ⟨p, hp, he⟩ := exists_of_mapM_eq_error h
    cases p with
    | char c => exact nomatch he
    | slot name =>
      refine ⟨name, List.mem_filterMap.2 ⟨_, hp, rfl⟩, ?_⟩
      replace he : String.toList <$> f name = .error e := he
      cases hname : f name with
      | error e' =>
        rw [hname] at he
        exact congrArg Except.error (Except.error.inj he)
      | ok text =>
        rw [hname] at he
        exact nomatch he
  · exact nomatch h

/-- Filling a text succeeds if it does for every placeholder of the text. -/
theorem exists_substituteM_iff {ε : Type} {f : String → Except ε String}
    {text : String} :
    (∃ filled, substituteM f text = .ok filled) ↔
      ∀ name ∈ occurrences text, ∃ value, f name = .ok value := by
  constructor
  · rintro ⟨filled, h⟩ name hname
    obtain ⟨parts, hparts, -⟩ := bind_eq_ok.1 h
    obtain ⟨p, hp, hslot⟩ := List.mem_filterMap.1 hname
    cases p with
    | char c => exact nomatch hslot
    | slot name' =>
      obtain rfl : name' = name := Option.some.inj hslot
      obtain ⟨chars, hchars⟩ := exists_ok_of_mapM_eq_ok hparts _ hp
      replace hchars : String.toList <$> f name' = .ok chars := hchars
      cases hf : f name' with
      | ok value => exact ⟨value, rfl⟩
      | error e =>
        rw [hf] at hchars
        exact nomatch hchars
  · intro h
    cases hfill : substituteM f text with
    | ok filled => exact ⟨filled, rfl⟩
    | error e =>
      obtain ⟨name, hname, he⟩ := exists_of_substituteM_eq_error hfill
      obtain ⟨value, hvalue⟩ := h name hname
      exact nomatch he.symm.trans hvalue

/-- Only the names of a text count for filling it. -/
theorem substituteM_congr {ε : Type} {f g : String → Except ε String} {text : String}
    (h : ∀ name ∈ occurrences text, f name = g name) :
    substituteM f text = substituteM g text := by
  rw [substituteM, substituteM, mapM_congr fun p hp => ?_]
  cases p with
  | char c => rfl
  | slot name => exact congrArg (String.toList <$> ·) (h name (List.mem_filterMap.2 ⟨_, hp, rfl⟩))

end HttpInterface.Placeholder
