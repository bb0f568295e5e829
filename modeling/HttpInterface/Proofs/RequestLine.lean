import HttpInterface.Proofs.Text.Blank
import HttpInterface.RequestLine

/-!
# `HttpInterface.Proofs.RequestLine`: the parts of a request line

A line that is read is `Divided`: a verb, blanks and a rest, with blanks around them.
`parse?_of_divided` and `exists_divided_of_parse?` say that these are the lines that are
read, and that the target is the rest without its version. `dropVersion_cases` says what
that means: the target is the whole rest, or the rest is the target, blanks and a version.

Two results about the grammar stand on it.

* `parse?_exact`: which lines are read, that reading undoes writing, and that a target is
  found in its line as it stands there.
* `parse?_append_version`: a version that is put behind a line says nothing if the line
  has a target. Behind a bare verb it is taken for the target (`version_of_bare_verb`).
-/

set_option autoImplicit false

namespace HttpInterface.RequestLine

open Text

/-- One or more of `A` to `Z`. -/
def Verb (cs : List Char) : Prop :=
  cs ≠ [] ∧ ∀ c ∈ cs, 'A' ≤ c ∧ c ≤ 'Z'

/-- One or more digits. -/
def Digits (cs : List Char) : Prop :=
  cs ≠ [] ∧ ∀ c ∈ cs, isDecimalDigit c = true

/-- How a version is written. -/
inductive Version : List Char → Prop
  | whole {ds : List Char} : Digits ds → Version ("HTTP/".toList ++ ds)
  | point {ds fs : List Char} : Digits ds → Digits fs →
      Version ("HTTP/".toList ++ (ds ++ '.' :: fs))

/-- A text with a version behind it. -/
def EndsInVersion (cs : List Char) : Prop :=
  ∃ front w v, front ≠ [] ∧ Blanks w ∧ w ≠ [] ∧ Version v ∧ cs = front ++ w ++ v

/-- What may be left out behind a target: blanks, and one version at most. -/
inductive LeftOut : List Char → Prop
  | blanks {w : List Char} : Blanks w → LeftOut w
  | version {w v w' : List Char} : Blanks w → w ≠ [] → Version v → Blanks w' →
      LeftOut (w ++ v ++ w')

/-- A verb, blanks and a rest, with blanks around them. A rest needs a blank in front of
it. -/
structure Divided (line verb rest : List Char) : Prop where
  isVerb : Verb verb
  trimmed : Trimmed rest
  parts : ∃ w₀ w₁ w₂, Blanks w₀ ∧ Blanks w₁ ∧ Blanks w₂ ∧ (w₁ = [] → rest = []) ∧
    line = w₀ ++ (verb ++ w₁ ++ rest) ++ w₂

/-- How a line holds what was read of it. -/
structure Holds (line : String) (r : RequestLine) : Prop where
  verb : Verb r.verb.toList
  /-- No blank stands at the ends of the target. -/
  trimmed : Trimmed r.target.toList
  /-- The verb is the first word of the line, and behind it and blanks the target stands as it
  is. -/
  parts : ∃ w₀ w₁ tail, Blanks w₀ ∧ Blanks w₁ ∧ (w₁ = [] → r.target = "") ∧ LeftOut tail ∧
    line.toList = w₀ ++ r.verb.toList ++ w₁ ++ r.target.toList ++ tail

variable {cs line verb rest front w v : List Char}

/-! ### Verbs and versions -/

theorem isVerb_iff : isVerb cs = true ↔ Verb cs := by
  simp [isVerb, Verb]

theorem isDigits_iff : isDigits cs = true ↔ Digits cs := by
  simp [isDigits, Digits]

theorem Digits.ne_point (h : Digits cs) : ∀ c ∈ cs, c ≠ '.' := by
  rintro c hc rfl
  exact absurd (h.2 '.' hc) (by decide)

theorem isVersionNumber_iff :
    isVersionNumber cs = true ↔
      Digits cs ∨ ∃ ds fs, Digits ds ∧ Digits fs ∧ cs = ds ++ '.' :: fs := by
  constructor
  · intro h
    have hsplit := List.takeWhile_append_dropWhile (p := (· ≠ '.')) (l := cs)
    have hstop := List.head?_dropWhile_not (· ≠ '.') cs
    simp only [isVersionNumber] at h
    split at h
    · next hdrop =>
      rw [hdrop, List.append_nil] at hsplit
      exact Or.inl (hsplit ▸ isDigits_iff.1 h)
    · next c fs hdrop =>
      rw [hdrop] at hsplit hstop
      rw [Bool.and_eq_true, isDigits_iff, isDigits_iff] at h
      obtain rfl : c = '.' := by simpa using hstop
      exact Or.inr ⟨_, fs, h.1, h.2, hsplit.symm⟩
  · have htake : ∀ {ds : List Char}, Digits ds → ∀ c ∈ ds, decide (c ≠ '.') = true :=
      fun hds c hc => by simpa using hds.ne_point c hc
    rintro (h | ⟨ds, fs, hds, hfs, rfl⟩)
    · rw [isVersionNumber, List.takeWhile_eq_self_iff.2 (htake h),
        List.dropWhile_eq_nil_iff.2 (htake h)]
      exact isDigits_iff.2 h
    · rw [isVersionNumber, List.takeWhile_append_of_pos (htake hds),
        List.dropWhile_append_of_pos (htake hds)]
      simp [isDigits_iff.2 hds, isDigits_iff.2 hfs]

/-- The check of a version knows how versions are written. -/
theorem isVersion_iff : isVersion cs = true ↔ Version cs := by
  constructor
  · intro h
    unfold isVersion at h
    split at h
    · next number =>
      rcases isVersionNumber_iff.1 h with h | ⟨ds, fs, hds, hfs, rfl⟩
      · exact .whole h
      · exact .point hds hfs
    · exact nomatch h
  · rintro (h | ⟨hds, hfs⟩)
    · exact isVersionNumber_iff.2 (Or.inl h)
    · exact isVersionNumber_iff.2 (Or.inr ⟨_, _, hds, hfs, rfl⟩)

instance (cs : List Char) : Decidable (Verb cs) :=
  decidable_of_iff _ isVerb_iff

instance (cs : List Char) : Decidable (Version cs) :=
  decidable_of_iff _ isVersion_iff

theorem Verb.unbroken (h : Verb cs) : Unbroken cs := by
  intro c hc
  obtain ⟨hlow, hhigh⟩ := h.2 c hc
  exact isBlank_eq_false_of_range 'A'.toNat 'Z'.toNat (by decide) hlow hhigh

/-- Digits stand in blocks of ten, and no block holds a blank. -/
theorem Digits.unbroken (h : Digits cs) : Unbroken cs := by
  have htable : ∀ z ∈ decimalZeros, ∀ r ∈ blankRanges, z + 9 < r.1 ∨ r.2 < z := by
    decide +kernel
  intro c hc
  have hdigit := h.2 c hc
  rw [isDecimalDigit, decimalDigit?, Option.isSome_map, List.isSome_find?,
    List.any_eq_true] at hdigit
  obtain ⟨z, hz, hblock⟩ := hdigit
  have hblock : z ≤ c.toNat ∧ c.toNat < z + 10 := by simpa using hblock
  exact isBlank_eq_false_of_range z (z + 9) (htable z hz) hblock.1 (Nat.le_of_lt_succ hblock.2)

theorem Version.unbroken (h : Version v) : Unbroken v := by
  have hfront : Unbroken "HTTP/".toList := by decide
  have hpoint : isBlank '.' = false := by decide
  cases h with
  | whole hds => exact hfront.append hds.unbroken
  | point hds hfs =>
    refine hfront.append (hds.unbroken.append fun c hc => ?_)
    rcases List.mem_cons.1 hc with rfl | hc
    · exact hpoint
    · exact hfs.unbroken c hc

theorem Version.ne_nil (h : Version v) : v ≠ [] := by
  cases h <;> exact List.cons_ne_nil _ _

/-! ### The version behind a target -/

theorem dropVersion_append (hne : front ≠ []) (hfront : EndsSolid front) (hw : Blanks w)
    (hv : Version v) (hwne : w ≠ []) : dropVersion (front ++ w ++ v) = front := by
  have hcut : cutLastWord (front ++ w ++ v) = (front, v) :=
    cutLastWord_eq_iff.2 ⟨hv.unbroken, hfront, w, hw, fun h => absurd h hwne, rfl⟩
  obtain ⟨c, front, rfl⟩ := List.exists_cons_of_ne_nil hne
  rw [dropVersion, hcut]
  exact if_pos (isVersion_iff.2 hv)

/-- Either nothing is dropped, or blanks and a version behind a text. -/
theorem dropVersion_cases (cs : List Char) :
    dropVersion cs = cs ∨
      dropVersion cs ≠ [] ∧ EndsSolid (dropVersion cs) ∧
        ∃ w v, Blanks w ∧ w ≠ [] ∧ Version v ∧ cs = dropVersion cs ++ w ++ v := by
  rcases hcut : cutLastWord cs with ⟨front, word⟩
  obtain ⟨-, hfront, w, hw, hne, hsplit⟩ := cutLastWord_eq_iff.1 hcut
  cases front with
  | nil =>
    rw [dropVersion, hcut]
    exact Or.inl rfl
  | cons c front =>
    have hdrop : dropVersion cs = if isVersion word then c :: front else cs := by
      rw [dropVersion, hcut]
    cases hword : isVersion word with
    | false => exact Or.inl (by rw [hdrop, hword, if_neg Bool.false_ne_true])
    | true =>
      rw [hword, if_pos rfl] at hdrop
      rw [hdrop]
      exact Or.inr ⟨List.cons_ne_nil _ _, hfront, w, word, hw,
        fun h => absurd (hne h) (List.cons_ne_nil _ _), isVersion_iff.1 hword, hsplit⟩

theorem dropVersion_of_not_endsInVersion (h : ¬EndsInVersion cs) : dropVersion cs = cs := by
  rcases dropVersion_cases cs with hsame | ⟨hne, -, w, v, hw, hwne, hv, hsplit⟩
  · exact hsame
  · exact absurd ⟨_, w, v, hne, hw, hwne, hv, hsplit⟩ h

/-- A text that ends in a version has it for its last word, whatever stands in front and whatever
blanks behind. -/
theorem EndsInVersion.version_lastWord (h : EndsInVersion cs) (front : List Char) (hw : Blanks w) :
    Version (lastWord (front ++ cs ++ w)) := by
  obtain ⟨text, w', v, -, hw', hwne, hv, rfl⟩ := h
  rw [← List.append_assoc, ← List.append_assoc, lastWord_append hw' hwne hv.unbroken hv.ne_nil hw]
  exact hv

/-- A single word stays, though it be a version. -/
theorem dropVersion_of_unbroken (h : Unbroken cs) : dropVersion cs = cs := by
  refine dropVersion_of_not_endsInVersion ?_
  rintro ⟨front, w, v, -, hw, hwne, -, rfl⟩
  obtain ⟨b, w, rfl⟩ := List.exists_cons_of_ne_nil hwne
  exact nomatch (hw b List.mem_cons_self).symm.trans (h b (by simp))

/-! ### Lines -/

theorem parse?_eq (text : String) :
    parse? text = if isVerb (firstWord text.toList) then
      some ⟨String.ofList (firstWord text.toList),
        String.ofList (dropVersion (cutFirstWord (trim text.toList)).2)⟩ else none := by
  rw [← cutFirstWord_trim_fst]
  rfl

/-- The first word of a line decides whether it is read. -/
theorem isSome_parse?_iff (text : String) :
    (parse? text).isSome ↔ Verb (firstWord text.toList) := by
  rw [parse?_eq, ← isVerb_iff]
  cases isVerb (firstWord text.toList) <;> simp

/-- The verb and the rest are what trimming and cutting find. -/
theorem Divided.cutFirstWord_trim (h : Divided line verb rest) :
    cutFirstWord (trim line) = (verb, rest) := by
  obtain ⟨w₀, w₁, w₂, hw₀, hw₁, hw₂, hne, rfl⟩ := h.parts
  have hverb := h.isVerb.unbroken
  by_cases hrest : rest = []
  · -- All blanks behind a bare verb are blanks at the end.
    subst hrest
    have hline : w₀ ++ (verb ++ w₁ ++ []) ++ w₂ = w₀ ++ verb ++ (w₁ ++ w₂) := by simp
    rw [hline, trim_append hw₀ hverb.trimmed (hw₁.append hw₂), cutFirstWord_eq_iff]
    exact ⟨hverb, startsSolid_nil, [], blanks_nil, fun _ => rfl, by simp⟩
  · have htrim := trim_append hw₀ (hverb.trimmed.append h.trimmed h.isVerb.1 hrest w₁) hw₂
    rw [htrim, cutFirstWord_eq_iff]
    exact ⟨hverb, h.trimmed.starts, w₁, hw₁, hne, rfl⟩

theorem parse?_of_divided {text : String} (h : Divided text.toList verb rest) :
    parse? text = some ⟨String.ofList verb, String.ofList (dropVersion rest)⟩ := by
  rw [parse?_eq, ← cutFirstWord_trim_fst, h.cutFirstWord_trim]
  exact if_pos (isVerb_iff.2 h.isVerb)

/-- A line that is read is divided into its verb and a rest that gives the target. -/
theorem exists_divided_of_parse? {text : String} {r : RequestLine} (h : parse? text = some r) :
    ∃ rest, Divided text.toList r.verb.toList rest ∧ r.target.toList = dropVersion rest := by
  rcases hcut : cutFirstWord (trim text.toList) with ⟨verb, rest⟩
  obtain ⟨-, hstarts, w₁, hw₁, hne, htrim⟩ := cutFirstWord_eq_iff.1 hcut
  obtain ⟨htrimmed, w₀, w₂, hw₀, hw₂, hline⟩ := trim_eq_iff.1 htrim
  rw [parse?_eq, ← cutFirstWord_trim_fst, hcut] at h
  split at h
  · next hverb =>
    obtain rfl := Option.some.inj h
    rw [String.toList_ofList, String.toList_ofList]
    refine ⟨rest, ⟨isVerb_iff.1 hverb, ⟨hstarts, ?_⟩, w₀, w₁, w₂, hw₀, hw₁, hw₂, hne, hline⟩, rfl⟩
    -- The rest ends where the trimmed line ends.
    by_cases hrest : rest = []
    · exact hrest ▸ trimmed_nil.ends
    · exact (endsSolid_append hrest).1 htrimmed.ends
  · exact nomatch h

/-- What was read of a line is found in it. -/
theorem holds_of_parse? {text : String} {r : RequestLine} (h : parse? text = some r) :
    Holds text r := by
  obtain ⟨rest, hdivided, htarget⟩ := exists_divided_of_parse? h
  obtain ⟨w₀, w₁, w₂, hw₀, hw₁, hw₂, hbare, hline⟩ := hdivided.parts
  rcases dropVersion_cases rest with hsame | ⟨hne, hends, w, v, hw, hwne, hv, hrest⟩
  · rw [hsame] at htarget
    refine ⟨hdivided.isVerb, htarget ▸ hdivided.trimmed, w₀, w₁, w₂, hw₀, hw₁, fun hw₁ => ?_,
      .blanks hw₂, ?_⟩
    · exact String.toList_eq_nil_iff.1 (htarget.trans (hbare hw₁))
    · rw [hline, htarget]
      simp
  · rw [← htarget] at hne hends hrest
    have hstarts : StartsSolid r.target.toList := by
      have hstarts := hdivided.trimmed.starts
      rwa [hrest, List.append_assoc, startsSolid_append hne] at hstarts
    refine ⟨hdivided.isVerb, ⟨hstarts, hends⟩, w₀, w₁, w ++ v ++ w₂, hw₀, hw₁, fun hw₁ => ?_,
      .version hw hwne hv hw₂, ?_⟩
    · -- A target and a version behind it are no empty rest.
      have hempty : r.target.toList ++ w ++ v = [] := hrest.symm.trans (hbare hw₁)
      exact absurd (List.append_eq_nil_iff.1 (List.append_eq_nil_iff.1 hempty).1).1 hne
    · rw [hline, hrest]
      simp

/-- The verb of a request line is one or more of `A` to `Z`. -/
theorem verb_of_parse? {text : String} {line : RequestLine} (h : parse? text = some line) :
    line.verb ≠ "" ∧ ∀ c ∈ line.verb.toList, 'A' ≤ c ∧ c ≤ 'Z' := by
  have hverb := (holds_of_parse? h).verb
  exact ⟨fun hempty => hverb.1 (String.toList_eq_nil_iff.2 hempty), hverb.2⟩

/-- Reading a line gives back the verb and the target that it was written from. -/
theorem parse?_of_written {verb target w₀ w₁ w₂ : String} (hverb : Verb verb.toList)
    (htarget : Trimmed target.toList) (hversion : ¬EndsInVersion target.toList)
    (hw₀ : Blanks w₀.toList) (hw₁ : Blanks w₁.toList) (hne : w₁ ≠ "") (hw₂ : Blanks w₂.toList) :
    parse? (w₀ ++ verb ++ w₁ ++ target ++ w₂) = some ⟨verb, target⟩ := by
  have hdivided : Divided (w₀ ++ verb ++ w₁ ++ target ++ w₂).toList verb.toList target.toList := by
    refine ⟨hverb, htarget, w₀.toList, w₁.toList, w₂.toList, hw₀, hw₁, hw₂, fun h => ?_, ?_⟩
    · exact absurd (String.toList_eq_nil_iff.1 h) hne
    · simp [String.toList_append]
  rw [parse?_of_divided hdivided, dropVersion_of_not_endsInVersion hversion, String.ofList_toList,
    String.ofList_toList]

/-- Which lines are read, that reading undoes writing, and that what is read of a line is found
in it. -/
theorem parse?_exact :
    (∀ line : String, (parse? line).isSome ↔ Verb (firstWord line.toList)) ∧
    (∀ verb target w₀ w₁ w₂ : String, Verb verb.toList → Trimmed target.toList →
      ¬EndsInVersion target.toList → Blanks w₀.toList → Blanks w₁.toList → w₁ ≠ "" →
      Blanks w₂.toList → parse? (w₀ ++ verb ++ w₁ ++ target ++ w₂) = some ⟨verb, target⟩) ∧
    ∀ (line : String) (r : RequestLine), parse? line = some r → Holds line r := by
  refine ⟨isSome_parse?_iff, ?_, fun line r => holds_of_parse?⟩
  intro verb target w₀ w₁ w₂ hverb htarget hversion hw₀ hw₁ hne hw₂
  exact parse?_of_written hverb htarget hversion hw₀ hw₁ hne hw₂

/-- Blanks inside the target stay, those around it do not. -/
theorem parse?_exact_search :
    Verb "GET".toList ∧ Trimmed "/search?q=a  b".toList ∧
      ¬EndsInVersion "/search?q=a  b".toList ∧ Blanks "\t".toList ∧ Blanks "\u2003 ".toList ∧
      parse? ("\t" ++ "GET" ++ "\u2003 " ++ "/search?q=a  b" ++ "\n") =
        some ⟨"GET", "/search?q=a  b"⟩ ∧
      Holds "GET /search HTTP/1.1 " ⟨"GET", "/search"⟩ := by
  have hversion : ¬EndsInVersion "/search?q=a  b".toList := fun h =>
    absurd (h.version_lastWord [] blanks_nil) (by decide)
  refine ⟨by decide, by decide, hversion, by decide, by decide, ?_, ?_⟩
  · exact parse?_exact.2.1 "GET" "/search?q=a  b" "\t" "\u2003 " "\n" (by decide) (by decide)
      hversion (by decide) (by decide) (by decide) (by decide)
  · exact parse?_exact.2.2 "GET /search HTTP/1.1 " ⟨"GET", "/search"⟩ (by decide)

/-! ### A version behind a line -/

/-- Where a line ends in no version, the whole rest is its target. -/
theorem Divided.dropVersion_eq_self (h : Divided line verb rest)
    (hlast : ¬Version (lastWord line)) : dropVersion rest = rest := by
  refine dropVersion_of_not_endsInVersion fun hends => hlast ?_
  obtain ⟨w₀, w₁, w₂, -, -, hw₂, -, rfl⟩ := h.parts
  have hversion := hends.version_lastWord (w₀ ++ verb ++ w₁) hw₂
  simpa using hversion

section

variable {more : List Char}

/-- What is put behind a bare verb is its rest. -/
theorem Divided.append_of_bare (h : Divided line verb []) (hw : Blanks w) (hwne : w ≠ [])
    (hmore : Trimmed more) : Divided (line ++ w ++ more) verb more := by
  obtain ⟨w₀, w₁, w₂, hw₀, hw₁, hw₂, -, rfl⟩ := h.parts
  exact ⟨h.isVerb, hmore, w₀, w₁ ++ w₂ ++ w, [], hw₀, (hw₁.append hw₂).append hw, blanks_nil,
    by simp [hwne], by simp⟩

/-- What is put behind a rest goes on with it. -/
theorem Divided.append_of_rest (h : Divided line verb rest) (hrest : rest ≠ []) (hw : Blanks w)
    (hwne : w ≠ []) (hmore : Trimmed more) (hmorene : more ≠ []) :
    ∃ w', Blanks w' ∧ w' ≠ [] ∧ Divided (line ++ w ++ more) verb (rest ++ w' ++ more) := by
  obtain ⟨w₀, w₁, w₂, hw₀, hw₁, hw₂, hne, rfl⟩ := h.parts
  refine ⟨w₂ ++ w, hw₂.append hw, by simp [hwne], h.isVerb, ?_, w₀, w₁, [], hw₀, hw₁, blanks_nil,
    ?_, by simp⟩
  · exact h.trimmed.append hmore hrest hmorene _
  · exact fun h => absurd (hne h) hrest

end

/-- A version that is put behind a line says nothing if the line has a target. Behind a bare verb
it is the target. -/
theorem parse?_append_version {line w v : String} {r : RequestLine} (hline : parse? line = some r)
    (hlast : ¬Version (lastWord line.toList)) (hw : Blanks w.toList) (hwne : w ≠ "")
    (hv : Version v.toList) :
    parse? (line ++ w ++ v) = some (if r.target = "" then ⟨r.verb, v⟩ else r) := by
  obtain ⟨rest, hdivided, htarget⟩ := exists_divided_of_parse? hline
  have hwne : w.toList ≠ [] := fun h => hwne (String.toList_eq_nil_iff.1 h)
  rw [hdivided.dropVersion_eq_self hlast] at htarget
  subst htarget
  have hlonger : (line ++ w ++ v).toList = line.toList ++ w.toList ++ v.toList := by
    simp [String.toList_append]
  by_cases hbare : r.target = ""
  · rw [hbare] at hdivided
    have happended := hdivided.append_of_bare hw hwne hv.unbroken.trimmed
    rw [← hlonger] at happended
    rw [if_pos hbare, parse?_of_divided happended, dropVersion_of_unbroken hv.unbroken]
    simp
  · have hne : r.target.toList ≠ [] := fun h => hbare (String.toList_eq_nil_iff.1 h)
    obtain ⟨w', hw', hwne', happended⟩ :=
      hdivided.append_of_rest hne hw hwne hv.unbroken.trimmed hv.ne_nil
    rw [← hlonger] at happended
    rw [if_neg hbare, parse?_of_divided happended,
      dropVersion_append hne hdivided.trimmed.ends hw' hv hwne']
    simp

theorem version_of_put :
    parse? "  PUT   /users\t" = some ⟨"PUT", "/users"⟩ ∧
      ¬Version (lastWord "  PUT   /users\t".toList) ∧ Blanks "\u2003".toList ∧
      Version "HTTP/1.1".toList ∧
      parse? ("  PUT   /users\t" ++ "\u2003" ++ "HTTP/1.1") = some ⟨"PUT", "/users"⟩ := by
  have hline : parse? "  PUT   /users\t" = some ⟨"PUT", "/users"⟩ := by decide
  have hlast : ¬Version (lastWord "  PUT   /users\t".toList) := by decide
  have hw : Blanks "\u2003".toList := by decide
  have hv : Version "HTTP/1.1".toList := by decide
  exact ⟨hline, hlast, hw, hv, parse?_append_version hline hlast hw (by decide) hv⟩

/-- Behind a bare verb a version is taken for the target. -/
theorem version_of_bare_verb :
    parse? "PATCH" = some ⟨"PATCH", ""⟩ ∧ ¬Version (lastWord "PATCH".toList) ∧
      Blanks " ".toList ∧ Version "HTTP/1.1".toList ∧
      parse? ("PATCH" ++ " " ++ "HTTP/1.1") = some ⟨"PATCH", "HTTP/1.1"⟩ := by
  decide

end HttpInterface.RequestLine
