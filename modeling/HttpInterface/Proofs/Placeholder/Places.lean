import HttpInterface.Proofs.Placeholder

/-!
# `HttpInterface.Proofs.Placeholder.Places`: every placeholder is found at its place

Where a placeholder stands is said without scanning: `OccursAt` cuts the text at a position into
what stands before it, a name between braces, and what follows. `places` lists where scanning has
found one, and the two agree (`mem_places`). No other brace can hide a placeholder, since the scan
of a text may be cut in front of each opening brace (`scan_append_open`).

Scanning goes through a text from its end. `search` goes through it from the front and goes on
behind each placeholder that it has found. `search_eq_scan` shows that both find the same.

`spliced` fills a text place by place: what stands between the places is copied, and nothing that
fills a place is read. `spliced_places` shows that this is what filling the pieces does.
-/

set_option autoImplicit false

namespace HttpInterface.Placeholder

/-- The characters are a name. -/
def IsName (cs : List Char) : Prop :=
  cs ≠ [] ∧ ∀ c ∈ cs, isNameChar c = true

/-- A name between braces stands at the position. -/
def OccursAt (cs : List Char) (position : Nat) (name : String) : Prop :=
  ∃ front back, cs = front ++ '{' :: (name.toList ++ '}' :: back) ∧ front.length = position ∧
    IsName name.toList

/-- The placeholders among pieces, each with its position; the first piece stands at `position`. -/
def placesFrom (position : Nat) : List Piece → List (Nat × String)
  | [] => []
  | .char _ :: rest => placesFrom (position + 1) rest
  | .slot name :: rest => (position, name) :: placesFrom (position + name.length + 2) rest

/-- Where scanning finds placeholders in a text. -/
def places (text : String) : List (Nat × String) :=
  placesFrom 0 (pieces text)

/-- The characters from `start` on, with `f name` in place of each placeholder that is listed. -/
def spliced (f : String → String) (cs : List Char) (start : Nat) :
    List (Nat × String) → List Char
  | [] => cs.drop start
  | (position, name) :: rest =>
    (cs.drop start).take (position - start) ++
      ((f name).toList ++ spliced f cs (position + name.length + 2) rest)

/-- A placeholder at the front: its name, and what follows it. -/
def cutPlaceholder? : List Char → Option (List Char × List Char)
  | '{' :: rest =>
    match rest.takeWhile isNameChar, rest.dropWhile isNameChar with
    | n :: name, '}' :: back => some (n :: name, back)
    | _, _ => none
  | _ => none

/-! ### Names between braces -/

/-- A character of a name is no brace. -/
theorem ne_brace_of_isNameChar {c : Char} (h : isNameChar c = true) : c ≠ '{' ∧ c ≠ '}' := by
  constructor
  · rintro rfl
    exact absurd h (by decide)
  · rintro rfl
    exact absurd h (by decide)

/-- A name is closed by the first closing brace behind it. -/
theorem closeName_of_isNameChar {name : List Char} (h : ∀ c ∈ name, isNameChar c = true)
    (rest : List Piece) :
    closeName (name.map .char ++ .char '}' :: rest) = some (name, rest) := by
  induction name with
  | nil => rfl
  | cons c name ih =>
    have hc := h c List.mem_cons_self
    have hrest := ih fun d hd => h d (List.mem_cons_of_mem c hd)
    rw [List.map_cons, List.cons_append, closeName, if_neg (ne_brace_of_isNameChar hc).2, if_pos hc,
      hrest]
    rfl

/-- What is closed is made of characters of a name. -/
theorem isNameChar_of_closeName {ps rest : List Piece} {name : List Char}
    (h : closeName ps = some (name, rest)) : ∀ c ∈ name, isNameChar c = true := by
  induction ps generalizing name with
  | nil => cases h
  | cons p ps ih =>
    cases p with
    | slot n => cases h
    | char c =>
      rw [closeName] at h
      split at h
      · obtain ⟨rfl, -⟩ := Prod.mk.inj (Option.some.inj h)
        simp
      · split at h
        · next hc =>
          obtain ⟨⟨found, behind⟩, hfound, heq⟩ := Option.map_eq_some_iff.1 h
          obtain ⟨rfl, rfl⟩ := Prod.mk.inj heq
          intro d hd
          rcases List.mem_cons.1 hd with rfl | hd
          · exact hc
          · exact ih hfound d hd
        · cases h

/-- A name between braces is scanned as a placeholder, whatever follows. -/
theorem scan_braced {name : List Char} (h : IsName name) (back : List Char) :
    scan ('{' :: (name ++ '}' :: back)) = .slot (String.ofList name) :: scan back := by
  have hopen : '{' ∉ name := fun hmem => (ne_brace_of_isNameChar (h.2 _ hmem)).1 rfl
  have hclose : closeName (scan (name ++ '}' :: back)) = some (name, scan back) := by
    rw [scan_append_of_not_mem hopen, scan_cons, attach_of_ne (by decide)]
    exact closeName_of_isNameChar h.2 (scan back)
  rw [scan_cons, attach, if_pos rfl, hclose]
  cases name with
  | nil => exact absurd rfl h.1
  | cons n name => rfl

/-- No name is closed at an opening brace. -/
theorem closeName_attach_open (ps : List Piece) : closeName (attach '{' ps) = none := by
  rw [attach, if_pos rfl]
  split
  · rfl
  · rfl

/-- The two sides of the place in front of an opening brace are scanned on their own. -/
theorem scan_append_open (a b : List Char) :
    scan (a ++ '{' :: b) = scan a ++ scan ('{' :: b) := by
  have hclose : closeName (scan ('{' :: b)) = none := closeName_attach_open (scan b)
  exact scan_append_of_closeName hclose a

/-! ### Scanning from the front -/

theorem cutPlaceholder?_eq_some_iff {cs name back : List Char} :
    cutPlaceholder? cs = some (name, back) ↔ cs = '{' :: (name ++ '}' :: back) ∧ IsName name := by
  constructor
  · intro h
    rw [cutPlaceholder?.eq_def] at h
    split at h
    · next rest =>
      split at h
      · next n word behind hname hback =>
        obtain ⟨rfl, rfl⟩ := Prod.mk.inj (Option.some.inj h)
        rw [← hname, ← hback, List.takeWhile_append_dropWhile]
        refine ⟨rfl, by simp [hname], fun c hc => ?_⟩
        exact List.all_eq_true.1 List.all_takeWhile c hc
      · exact nomatch h
    · exact nomatch h
  · rintro ⟨rfl, hne, hname⟩
    have htake : (name ++ '}' :: back).takeWhile isNameChar = name := by
      rw [List.takeWhile_append_of_pos hname, List.takeWhile_cons_of_neg (by decide),
        List.append_nil]
    have hdrop : (name ++ '}' :: back).dropWhile isNameChar = '}' :: back := by
      rw [List.dropWhile_append_of_pos hname, List.dropWhile_cons_of_neg (by decide)]
    cases name with
    | nil => exact absurd rfl hne
    | cons n name => simp only [cutPlaceholder?, htake, hdrop]

/-- The pieces of a text, read from its front. -/
def search (cs : List Char) : List Piece :=
  match cs with
  | [] => []
  | c :: rest =>
    match _ : cutPlaceholder? (c :: rest) with
    | some (name, back) => .slot (String.ofList name) :: search back
    | none => .char c :: search rest
termination_by cs.length
decreasing_by
  · next h =>
    obtain ⟨heq, -⟩ := cutPlaceholder?_eq_some_iff.1 h
    rw [heq]
    simp
    omega
  · simp

/-- A character in front of which no placeholder is cut off is scanned as itself. -/
theorem scan_cons_of_cutPlaceholder? {c : Char} {rest : List Char}
    (h : cutPlaceholder? (c :: rest) = none) : scan (c :: rest) = .char c :: scan rest := by
  by_cases hc : c = '{'
  · subst hc
    rw [scan_cons, attach, if_pos rfl]
    split
    · next n name back hclose =>
      -- A name that is closed here could be cut off.
      have hrest := flatMap_chars_of_closeName hclose
      rw [flatMap_chars_scan] at hrest
      have hcut : cutPlaceholder? ('{' :: rest) = some (n :: name, back.flatMap Piece.chars) :=
        cutPlaceholder?_eq_some_iff.2
          ⟨congrArg ('{' :: ·) hrest, List.cons_ne_nil n name, isNameChar_of_closeName hclose⟩
      cases h.symm.trans hcut
    · rfl
  · rw [scan_cons, attach_of_ne hc]

/-- Both directions find the same pieces. -/
theorem search_eq_scan (cs : List Char) : search cs = scan cs := by
  fun_induction search cs with
  | case1 => rfl
  | case2 c rest name back h ih =>
    obtain ⟨heq, hname⟩ := cutPlaceholder?_eq_some_iff.1 h
    rw [heq, scan_braced hname, ih]
  | case3 c rest h ih => rw [scan_cons_of_cutPlaceholder? h, ih]

/-- What is scanned as a placeholder has a name. -/
theorem isName_of_slot_mem_scan {cs : List Char} {name : String} (h : .slot name ∈ scan cs) :
    IsName name.toList := by
  rw [← search_eq_scan] at h
  fun_induction search cs with
  | case1 => exact absurd h List.not_mem_nil
  | case2 c rest found back hcut ih =>
    rcases List.mem_cons.1 h with heq | h
    · obtain rfl := Piece.slot.inj heq
      rw [String.toList_ofList]
      exact (cutPlaceholder?_eq_some_iff.1 hcut).2
    · exact ih h
  | case3 c rest hcut ih =>
    rcases List.mem_cons.1 h with heq | h
    · exact nomatch heq
    · exact ih h

/-! ### Places -/

theorem map_snd_placesFrom (position : Nat) (ps : List Piece) :
    (placesFrom position ps).map Prod.snd = ps.filterMap Piece.name? := by
  induction ps generalizing position with
  | nil => rfl
  | cons p ps ih =>
    cases p with
    | char c => exact ih (position + 1)
    | slot name => exact congrArg (name :: ·) (ih (position + name.length + 2))

theorem map_snd_places (text : String) : (places text).map Prod.snd = occurrences text :=
  map_snd_placesFrom 0 (pieces text)

theorem length_chars_slot (name : String) : (Piece.slot name).chars.length = name.length + 2 := by
  rw [Piece.chars, List.length_append, List.length_cons, String.length_toList]
  rfl

/-- A place is that of a piece behind the pieces in front of it. -/
theorem mem_placesFrom {position k : Nat} {name : String} {ps : List Piece} :
    (position, name) ∈ placesFrom k ps ↔ ∃ front back, ps = front ++ .slot name :: back ∧
      position = k + (front.flatMap Piece.chars).length := by
  induction ps generalizing k with
  | nil => simp [placesFrom]
  | cons p ps ih =>
    have hcons : (∃ front back, p :: ps = front ++ .slot name :: back ∧
          position = k + (front.flatMap Piece.chars).length) ↔
        (p = .slot name ∧ position = k) ∨ ∃ front back, ps = front ++ .slot name :: back ∧
          position = k + p.chars.length + (front.flatMap Piece.chars).length := by
      constructor
      · rintro ⟨front, back, heq, hposition⟩
        cases front with
        | nil => exact Or.inl ⟨(List.cons.inj heq).1, hposition⟩
        | cons q front =>
          obtain ⟨rfl, rfl⟩ := List.cons.inj heq
          rw [List.flatMap_cons, List.length_append, ← Nat.add_assoc] at hposition
          exact Or.inr ⟨front, back, rfl, hposition⟩
      · rintro (⟨rfl, rfl⟩ | ⟨front, back, rfl, hposition⟩)
        · exact ⟨[], ps, rfl, rfl⟩
        · refine ⟨p :: front, back, rfl, ?_⟩
          rw [List.flatMap_cons, List.length_append, ← Nat.add_assoc]
          exact hposition
    rw [hcons, ← ih]
    cases p with
    | char c => simp [placesFrom, Piece.chars]
    | slot n =>
      rw [length_chars_slot, ← Nat.add_assoc, placesFrom, List.mem_cons, Prod.mk.injEq,
        Piece.slot.injEq]
      exact or_congr_left ⟨fun h => ⟨h.2.symm, h.1⟩, fun h => ⟨h.2, h.1.symm⟩⟩

/-- Scanning finds a placeholder exactly where a name stands between braces. -/
theorem mem_places {text : String} {position : Nat} {name : String} :
    (position, name) ∈ places text ↔ OccursAt text.toList position name := by
  rw [places, mem_placesFrom, pieces]
  constructor
  · rintro ⟨front, back, hscan, hposition⟩
    have hchars := flatMap_chars_scan text.toList
    rw [hscan, List.flatMap_append, List.flatMap_cons] at hchars
    refine ⟨front.flatMap Piece.chars, back.flatMap Piece.chars, ?_, ?_, ?_⟩
    · rw [← hchars]
      simp [Piece.chars]
    · rw [hposition, Nat.zero_add]
    · have hmem : Piece.slot name ∈ scan text.toList := by simp [hscan]
      exact isName_of_slot_mem_scan hmem
  · rintro ⟨front, back, htext, rfl, hname⟩
    -- The text is cut in front of the brace, and the placeholder is the first piece behind.
    have hscan := scan_append_open front (name.toList ++ '}' :: back)
    rw [scan_braced hname, String.ofList_toList] at hscan
    rw [htext]
    exact ⟨scan front, scan back, hscan, by rw [flatMap_chars_scan, Nat.zero_add]⟩

/-- Places come in order, and each ends before the next one begins. -/
theorem pairwise_placesFrom (k : Nat) (ps : List Piece) :
    (∀ place ∈ placesFrom k ps, k ≤ place.1) ∧
      (placesFrom k ps).Pairwise fun a b => a.1 + a.2.length + 2 ≤ b.1 := by
  induction ps generalizing k with
  | nil => exact ⟨by simp [placesFrom], List.Pairwise.nil⟩
  | cons p ps ih =>
    cases p with
    | char c =>
      obtain ⟨hfrom, hpairs⟩ := ih (k + 1)
      exact ⟨fun place hplace => Nat.le_of_succ_le (hfrom place hplace), hpairs⟩
    | slot name =>
      obtain ⟨hfrom, hpairs⟩ := ih (k + name.length + 2)
      refine ⟨fun place hplace => ?_, List.pairwise_cons.2 ⟨hfrom, hpairs⟩⟩
      rcases List.mem_cons.1 hplace with rfl | hplace
      · exact Nat.le_refl k
      · have hle := hfrom place hplace
        omega

/-- Each listed name stands somewhere in front of every place of a name that is listed behind it. -/
theorem pairwise_names (text : String) :
    (names text).Pairwise fun a b => ∃ position, OccursAt text.toList position a ∧
      ∀ other, OccursAt text.toList other b → position < other := by
  have hne : (names text).Pairwise (· ≠ ·) := nodup_eraseDups _
  refine ((pairwise_eraseDups (occurrences text)).and hne).imp ?_
  rintro a b ⟨⟨front, back, hsplit, hb⟩, hab⟩
  rw [← map_snd_places, List.map_eq_append_iff] at hsplit
  obtain ⟨before, rest, hplaces, rfl, hrest⟩ := hsplit
  obtain ⟨⟨position, name⟩, behind, rfl, rfl, -⟩ := List.map_eq_cons_iff.1 hrest
  refine ⟨position, mem_places.1 (by simp [hplaces]), fun other hother => ?_⟩
  -- The other place is none of those before, and those behind come later.
  have hsorted := (pairwise_placesFrom 0 (pieces text)).2
  rw [show placesFrom 0 (pieces text) = _ from hplaces, List.pairwise_append,
    List.pairwise_cons] at hsorted
  have hmem := mem_places.2 hother
  rw [hplaces, List.mem_append, List.mem_cons] at hmem
  rcases hmem with hmem | heq | hmem
  · exact absurd (List.mem_map_of_mem hmem) hb
  · exact absurd (Prod.mk.inj heq).2.symm hab
  · have hle : position + name.length + 2 ≤ other := hsorted.2.1.1 _ hmem
    omega

/-! ### Filling place by place -/

/-- A character in front of all places is copied. -/
theorem spliced_of_lt {f : String → String} {cs : List Char} {start : Nat} {c : Char}
    {rest : List Char} (hdrop : cs.drop start = c :: rest) {ps : List (Nat × String)}
    (hps : ∀ place ∈ ps, start < place.1) :
    spliced f cs start ps = c :: spliced f cs (start + 1) ps := by
  have hnext : cs.drop (start + 1) = rest := by
    rw [← List.tail_drop, hdrop, List.tail_cons]
  cases ps with
  | nil => rw [spliced, spliced, hdrop, hnext]
  | cons place ps =>
    have hlt : start < place.1 := hps place List.mem_cons_self
    obtain ⟨count, hcount⟩ := Nat.exists_eq_add_of_lt hlt
    rw [spliced, spliced, hdrop, hnext, show place.1 - start = count + 1 by omega,
      show place.1 - (start + 1) = count by omega, List.take_succ_cons, List.cons_append]

/-- Filling place by place is filling piece by piece. -/
theorem spliced_placesFrom (f : String → String) {cs : List Char} {ps : List Piece} {k : Nat}
    (h : cs.drop k = ps.flatMap Piece.chars) :
    spliced f cs k (placesFrom k ps) = ps.flatMap (Piece.filled f) := by
  induction ps generalizing k with
  | nil => exact h
  | cons p ps ih =>
    have hdrop : cs.drop (k + p.chars.length) = ps.flatMap Piece.chars := by
      rw [← List.drop_drop, h, List.flatMap_cons, List.drop_left]
    cases p with
    | char c =>
      have hfrom := (pairwise_placesFrom (k + 1) ps).1
      have hrest : spliced f cs (k + 1) (placesFrom (k + 1) ps) = ps.flatMap (Piece.filled f) :=
        ih hdrop
      rw [placesFrom, spliced_of_lt h hfrom, hrest]
      rfl
    | slot name =>
      rw [length_chars_slot, ← Nat.add_assoc] at hdrop
      rw [placesFrom, spliced, ih hdrop, Nat.sub_self, List.take_zero, List.nil_append]
      rfl

theorem spliced_places (f : String → String) (text : String) :
    spliced f text.toList 0 (places text) = (substitute f text).toList := by
  have hchars : text.toList.drop 0 = (pieces text).flatMap Piece.chars :=
    (flatMap_chars_scan text.toList).symm
  rw [toList_substitute, places, spliced_placesFrom f hchars]
  rfl

/-- The braces of a name put back. -/
def braced (name : String) : String :=
  String.ofList ('{' :: (name.toList ++ ['}']))

/-- Filling each place with what stands there changes nothing. -/
theorem substitute_braced (text : String) : substitute braced text = text := by
  have hpieces : ∀ p ∈ pieces text, p.filled braced = p.chars := by
    intro p _
    cases p with
    | char c => rfl
    | slot name => exact String.toList_ofList
  rw [substitute_eq, filled, ← pieces, List.flatMap_def, List.map_congr_left hpieces,
    ← List.flatMap_def, pieces, flatMap_chars_scan, String.ofList_toList]

/-! ### A text and its placeholders -/

/-- All placeholders of a text are found, and just these are filled. -/
structure Scanned (text : String) : Prop where
  /-- The places that are found are all places where a name stands between braces. -/
  mem_iff : ∀ position name,
    (position, name) ∈ places text ↔ OccursAt text.toList position name
  /-- No two placeholders overlap. -/
  disjoint : (places text).Pairwise fun a b => a.1 + a.2.length + 2 ≤ b.1
  /-- Reading from the front and going on behind each placeholder finds the same. -/
  from_front : search text.toList = pieces text
  /-- The names are those that stand at some place. -/
  mem_names : ∀ name, name ∈ names text ↔ ∃ position, OccursAt text.toList position name
  /-- No name is listed twice. -/
  nodup_names : (names text).Nodup
  /-- A name stands in front of all places of the names that are listed behind it. -/
  names_in_order : (names text).Pairwise fun a b => ∃ position,
    OccursAt text.toList position a ∧
      ∀ other, OccursAt text.toList other b → position < other
  /-- There are placeholders exactly if there are names. -/
  occursIn_iff : occursIn text = true ↔ names text ≠ []
  /-- The text between the places is copied, and what fills a place is not read. -/
  place_by_place : ∀ f, substitute f text = String.ofList (spliced f text.toList 0 (places text))
  /-- A text that is filled with its own placeholders stays as it is. -/
  unchanged : substitute braced text = text
  /-- Only the names of the text count. -/
  congr : ∀ f g, (∀ name ∈ names text, f name = g name) → substitute f text = substitute g text

/-- Every text is scanned and filled so. -/
theorem scanned (text : String) : Scanned text where
  mem_iff _ _ := mem_places
  disjoint := (pairwise_placesFrom 0 (pieces text)).2
  from_front := search_eq_scan text.toList
  mem_names name := by
    rw [Placeholder.mem_names, ← map_snd_places, List.mem_map]
    constructor
    · rintro ⟨⟨position, _⟩, hplace, rfl⟩
      exact ⟨position, mem_places.1 hplace⟩
    · rintro ⟨position, hplace⟩
      exact ⟨(position, name), mem_places.2 hplace, rfl⟩
  nodup_names := nodup_eraseDups _
  names_in_order := pairwise_names text
  occursIn_iff := by
    rw [Placeholder.occursIn_iff, ← List.isEmpty_eq_false_iff, List.isEmpty_eq_false_iff_exists_mem]
    exact exists_congr fun name => Placeholder.mem_names.symm
  place_by_place f := by rw [spliced_places, String.ofList_toList]
  unchanged := substitute_braced text
  congr f g h := by
    rw [substitute_eq, substitute_eq, filled_congr fun name hname => h name (mem_names.2 hname)]

/-- Other braces around a placeholder do not hide it. -/
example : places "{x{a}{b.c}}" = [(2, "a"), (5, "b.c")] := by decide

end HttpInterface.Placeholder
