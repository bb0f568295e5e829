import HttpInterface.Proofs.Body
import HttpInterface.Proofs.Percent.Unquote

/-!
# `HttpInterface.Proofs.Body.Joined`: where a literal ends

In UTF-8 a body should decode to its literals, each unquoted by itself, with the texts of the
arguments between them. But unquoting does not see where a literal ends. A literal that is cut off
within an escape, or within a character that is written with escapes, is completed by what follows
it: by the first characters of an argument, or by the next literal if the argument is empty.

`decoded_iff_not_joined` says that nothing else goes wrong. The body decodes to what the template
means exactly if no literal is completed in this way (`Joined`): where one is, characters are
lost, and no other place of the body makes up for them.

`Percent.Joins` says of two texts that the second goes on with something that the first has begun,
an escape or a character. Without it each is unquoted on its own (`Percent.unquoted_append`), and
with it never: an escape that is read across the cut takes characters away from both sides, and so
does a character (`Percent.length_unquoted_append_lt`).
-/

set_option autoImplicit false

namespace HttpInterface.Percent

/-- The characters that a text is unquoted to. -/
def unquoted (cs : List Char) : List Char :=
  Charset.Utf8.decode (bytesOfText cs)

/-- The second text goes on with an escape or with a character that the first begins. -/
def Joins (a b : List Char) : Prop :=
  GoesOnAsEscape a b ∨ Charset.Utf8.GoesOn (bytesOfText a) (bytesOfText b)

variable {a b : List Char}

/-! ### Two texts that do not join -/

theorem unquoted_append (h : ¬Joins a b) : unquoted (a ++ b) = unquoted a ++ unquoted b := by
  rw [Joins, not_or] at h
  rw [unquoted, bytesOfText_append h.1, Charset.Utf8.decode_append_of_not_goesOn h.2]
  rfl

/-- Nothing goes on with the empty text. -/
theorem not_joins_nil (a : List Char) : ¬Joins a [] := by
  rintro (h | h)
  · exact not_goesOnAsEscape_of_head? (by simp) a h
  · rw [Charset.Utf8.GoesOn] at h
    revert h
    show ¬Charset.Utf8.State.GoesOn _ []
    cases (Charset.Utf8.run .start (bytesOfText a)).2 <;> exact id

/-- Nothing goes on with a closed text. -/
theorem IsClosed.not_joins (h : IsClosed a) (b : List Char) : ¬Joins a b := by
  rintro (hgo | hgo)
  · exact not_goesOnAsEscape_of_endsInEscape h.escape b hgo
  · rw [Charset.Utf8.GoesOn, show (Charset.Utf8.run .start (bytesOfText a)).2 = .start from h.char]
      at hgo
    exact hgo

/-! ### Two texts that join -/

/-- A character that is part of no escape is left as it is. -/
theorem unquoted_append_cons {c : Char} (ha : ¬GoesOnAsEscape a (c :: b))
    (hb : c = '%' → startsWithDigits b = false) :
    unquoted (a ++ c :: b) = unquoted a ++ c :: unquoted b := by
  rw [unquoted, bytesOfText_append ha, bytesOfText_cons hb,
    Charset.Utf8.decode_append_encodeChar]
  rfl

theorem unquoted_cons_of_hexDigit? {c : Char} (h : (Text.hexDigit? c).isSome = true)
    (cs : List Char) : unquoted (c :: cs) = c :: unquoted cs :=
  unquoted_append_cons (a := []) (not_goesOnAsEscape_of_endsInEscape rfl _)
    fun hc => absurd hc (ne_percent_of_hexDigit? h)

/-- An escape gives at most one character more. -/
theorem length_unquoted_escape_le {high low : Char} {byte : UInt8}
    (h : byteOfDigits? high low = some byte) (a b : List Char) :
    (unquoted (a ++ '%' :: high :: low :: b)).length ≤
      (unquoted a).length + 1 + (unquoted b).length := by
  rw [unquoted, bytesOfText_append (not_goesOnAsEscape_percent a _), bytesOfText_digits h]
  have hfront := Charset.Utf8.length_decode_append_le (bytesOfText a) (byte :: bytesOfText b)
  have hback := Charset.Utf8.length_decode_append_le [byte] (bytesOfText b)
  rw [Charset.Utf8.length_decode_singleton, List.singleton_append] at hback
  rw [unquoted, unquoted]
  omega

/-- An escape that is read across the cut takes characters away from both sides. -/
theorem length_unquoted_append_lt_of_escape (h : GoesOnAsEscape a b) :
    (unquoted (a ++ b)).length < (unquoted a).length + (unquoted b).length := by
  obtain ⟨front, digits, rfl, hlength, hdigits⟩ := h
  match digits with
  | [] =>
    -- Both digits are in the second text.
    obtain ⟨high, low, byte, rest, rfl, hbyte⟩ := startsWithDigits_iff.1 hdigits
    obtain ⟨hhigh, hlow⟩ := isSome_of_byteOfDigits? hbyte
    have hwhole := length_unquoted_escape_le hbyte front rest
    have ha := unquoted_append_cons (not_goesOnAsEscape_percent front []) fun _ => rfl
    rw [List.append_assoc, List.cons_append, List.nil_append, ha, unquoted_cons_of_hexDigit? hhigh,
      unquoted_cons_of_hexDigit? hlow]
    simp only [List.length_append, List.length_cons]
    omega
  | [high] =>
    -- The second text has the last digit only.
    obtain ⟨_, low, byte, rest, heq, hbyte⟩ := startsWithDigits_iff.1 hdigits
    obtain ⟨rfl, rfl⟩ := List.cons.inj heq
    obtain ⟨hhigh, hlow⟩ := isSome_of_byteOfDigits? hbyte
    have hwhole := length_unquoted_escape_le hbyte front rest
    have ha := unquoted_append_cons (not_goesOnAsEscape_percent front [high]) fun _ => rfl
    rw [List.append_assoc, List.cons_append, List.cons_append, List.nil_append, ha,
      unquoted_cons_of_hexDigit? hhigh, unquoted_cons_of_hexDigit? hlow]
    simp only [List.length_append, List.length_cons]
    omega
  | _ :: _ :: _ => exact absurd hlength (by simp)

/-- Two texts that join give fewer characters together than each on its own. -/
theorem length_unquoted_append_lt (h : Joins a b) :
    (unquoted (a ++ b)).length < (unquoted a).length + (unquoted b).length := by
  by_cases hescape : GoesOnAsEscape a b
  · exact length_unquoted_append_lt_of_escape hescape
  · rw [unquoted, bytesOfText_append hescape]
    exact Charset.Utf8.length_decode_append_lt (h.resolve_left hescape)

end HttpInterface.Percent

namespace HttpInterface

namespace Placeholder

/-- A text of runs, with the quoted text `f name` in the place of every placeholder `name`. -/
def quotedRuns (f : String → String) (all : List Run) : List Char :=
  all.flatMap (Run.filled fun name => Percent.quote (f name))

/-- What follows one of the literals goes on with it. -/
def Run.Joined (f : String → String) (all : List Run) : Prop :=
  ∃ front literal back, all = front ++ .literal literal :: back ∧
    Percent.Joins literal (quotedRuns f back)

/-- A literal of the text is completed by what follows it, if the quoted text `f name` is in the
place of every placeholder `name`. -/
def Joined (f : String → String) (cs : List Char) : Prop :=
  Run.Joined f (runs cs)

variable {f : String → String}

theorem joined_cons {run : Run} {rest : List Run} :
    Run.Joined f (run :: rest) ↔
      (∃ literal, run = .literal literal ∧ Percent.Joins literal (quotedRuns f rest)) ∨
        Run.Joined f rest := by
  constructor
  · rintro ⟨front, literal, back, heq, hjoins⟩
    cases front with
    | nil =>
      obtain ⟨rfl, rfl⟩ := List.cons.inj heq
      exact Or.inl ⟨literal, rfl, hjoins⟩
    | cons first front =>
      obtain ⟨rfl, rfl⟩ := List.cons.inj heq
      exact Or.inr ⟨front, literal, back, rfl, hjoins⟩
  · rintro (⟨literal, rfl, hjoins⟩ | ⟨front, literal, back, rfl, hjoins⟩)
    · exact ⟨[], literal, rest, rfl, hjoins⟩
    · exact ⟨run :: front, literal, back, rfl, hjoins⟩

theorem joined_slot_cons {name : String} {rest : List Run} :
    Run.Joined f (.slot name :: rest) ↔ Run.Joined f rest := by
  simp [joined_cons]

theorem joined_literal_cons {literal : List Char} {rest : List Run} :
    Run.Joined f (.literal literal :: rest) ↔
      Percent.Joins literal (quotedRuns f rest) ∨ Run.Joined f rest := by
  simp [joined_cons]

theorem decoded_literal_eq_unquoted (literal : List Char) :
    Run.decoded f (.literal literal) = Percent.unquoted literal := by
  rw [Run.decoded, Percent.unquote_eq, String.toList_ofList, String.toList_ofList]
  rfl

/-- Filled with quoted texts, runs are never unquoted to more characters than they mean, and they
are unquoted to what they mean exactly if no literal is completed. -/
theorem unquoted_quotedRuns (f : String → String) (all : List Run) :
    (Percent.unquoted (quotedRuns f all)).length ≤ (all.flatMap (Run.decoded f)).length ∧
      (Percent.unquoted (quotedRuns f all) = all.flatMap (Run.decoded f) ↔ ¬Run.Joined f all) := by
  induction all with
  | nil => exact ⟨Nat.le_refl 0, iff_of_true rfl fun ⟨front, _, _, heq, _⟩ => by simp at heq⟩
  | cons run rest ih =>
    obtain ⟨hle, hiff⟩ := ih
    rw [quotedRuns, List.flatMap_cons, ← quotedRuns, List.flatMap_cons]
    cases run with
    | slot name =>
      -- A quoted text is read back, so it neither completes a literal nor is completed.
      have hslot : Percent.unquoted (Run.filled (fun name => Percent.quote (f name)) (.slot name) ++
          quotedRuns f rest) = (f name).toList ++ Percent.unquoted (quotedRuns f rest) :=
        Percent.decode_quote_append (f name) (quotedRuns f rest)
      rw [hslot, Run.decoded, List.append_cancel_left_eq, hiff, joined_slot_cons,
        List.length_append, List.length_append]
      exact ⟨Nat.add_le_add_left hle _, Iff.rfl⟩
    | literal literal =>
      rw [decoded_literal_eq_unquoted, Run.filled, joined_literal_cons]
      by_cases hjoins : Percent.Joins literal (quotedRuns f rest)
      · -- The characters that are lost here are missing in the end.
        have hlt : (Percent.unquoted (literal ++ quotedRuns f rest)).length <
            (Percent.unquoted literal ++ rest.flatMap (Run.decoded f)).length := by
          have hcut := Percent.length_unquoted_append_lt hjoins
          rw [List.length_append]
          omega
        refine ⟨Nat.le_of_lt hlt, iff_of_false (fun heq => ?_) fun hno => hno (Or.inl hjoins)⟩
        rw [heq] at hlt
        exact Nat.lt_irrefl _ hlt
      · rw [Percent.unquoted_append hjoins, List.append_cancel_left_eq, hiff, List.length_append,
          List.length_append, not_or]
        exact ⟨Nat.add_le_add_left hle _, ⟨fun hrest => ⟨hjoins, hrest⟩, And.right⟩⟩

/-- In a separable text no literal is completed. -/
theorem Separable.not_joined {cs : List Char} (h : Separable cs) (f : String → String) :
    ¬Joined f cs := by
  rintro ⟨front, literal, back, heq, hjoins⟩
  cases back with
  | nil => exact Percent.not_joins_nil literal hjoins
  | cons next back =>
    have hmem : .literal literal ∈ (runs cs).dropLast := by
      rw [heq, List.dropLast_append_of_ne_nil (by simp)]
      exact List.mem_append_right _ List.mem_cons_self
    have hclosed : Percent.IsClosed literal := h _ hmem
    exact hclosed.not_joins _ hjoins

end Placeholder

namespace Template

variable {t : Template} {args : Arguments} {charset text : String}

/-- In UTF-8 a body template always gives a body, the bytes of a text. This text is what the
template means, each literal unquoted by itself and each argument as it is, exactly if no literal is
completed by what follows it. In a separable template none is, whatever the arguments. -/
theorem decoded_iff_not_joined (hcharset : Charset.lookUp charset = .ok .utf8)
    (htext : t.bodyTemplate = some text) (hmissing : t.missing args = []) :
    ∃ r body, t.expand args charset = .ok r ∧ r.body = some body ∧
      body = Charset.Utf8.encode (Charset.Utf8.decode body) ∧
      (Charset.Utf8.decode body = (Placeholder.decoded args.text text.toList).toList ↔
        ¬Placeholder.Joined args.text text.toList) ∧
      (Placeholder.Separable text.toList →
        Charset.Utf8.decode body = (Placeholder.decoded args.text text.toList).toList) := by
  have hunquoted : Percent.unquoteIn charset (String.ofList
      (Placeholder.filled (fun name => Percent.quote (args.text name)) text.toList)) =
      .ok (String.ofList (Percent.unquoted
        (Placeholder.quotedRuns args.text (Placeholder.runs text.toList)))) := by
    rw [Percent.unquoteIn_utf8 hcharset, String.toList_ofList, ← Placeholder.flatMap_filled_runs]
    rfl
  have hexpand := expandBody_eq (covers_bodyTemplate hmissing htext)
    (fun name _ => Percent.quoteIn_utf8 hcharset (args.text name)) hunquoted
  rw [Charset.encode_eq hcharset, String.toList_ofList] at hexpand
  have hiff := (Placeholder.unquoted_quotedRuns args.text (Placeholder.runs text.toList)).2
  refine ⟨_, _, expand_of_expandBody hmissing htext hexpand, rfl, ?_⟩
  rw [Charset.Utf8.decode_encode, Placeholder.decoded, String.toList_ofList]
  exact ⟨rfl, hiff, fun hseparable => hiff.2 (hseparable.not_joined args.text)⟩

/-- A rate behind a complete escape. -/
def rateAfterEscape : Template where
  method := "POST"
  bodyTemplate := some "rate%3D{rate}"

/-- A rate behind a percent sign. -/
def rateAfterPercent : Template where
  method := "POST"
  bodyTemplate := some "rate=%{rate}"

/-- A rate that could be the digits of an escape. -/
def rate : Arguments :=
  .ofList [("rate", .text "41")]

theorem decoded_rate :
    Charset.lookUp "utf-8" = .ok .utf8 ∧ rateAfterEscape.bodyTemplate = some "rate%3D{rate}" ∧
      rateAfterEscape.missing rate = [] ∧ Placeholder.Separable "rate%3D{rate}".toList ∧
      ∃ r body, rateAfterEscape.expand rate "utf-8" = .ok r ∧ r.body = some body ∧
        Charset.Utf8.decode body = "rate=41".toList := by
  have hcharset : Charset.lookUp "utf-8" = .ok .utf8 := by decide
  have hmissing : rateAfterEscape.missing rate = [] := by decide
  have hseparable : Placeholder.Separable "rate%3D{rate}".toList := by decide
  have hmeant : Placeholder.decoded rate.text "rate%3D{rate}".toList = "rate=41" := by
    decide +kernel
  obtain ⟨r, body, hexpand, hbody, -, -, hdecoded⟩ :=
    decoded_iff_not_joined hcharset (t := rateAfterEscape) rfl hmissing
  refine ⟨hcharset, rfl, hmissing, hseparable, r, body, hexpand, hbody, ?_⟩
  rw [hdecoded hseparable, hmeant]

/-- Behind a percent sign a rate of 41 becomes the letter `A`. -/
theorem joined_rate :
    Charset.lookUp "utf-8" = .ok .utf8 ∧ rateAfterPercent.missing rate = [] ∧
      (∃ r, rateAfterPercent.expand rate "utf-8" = .ok r ∧
        r.body = some (Charset.Utf8.encode "rate=A".toList)) ∧
      Charset.Utf8.decode (Charset.Utf8.encode "rate=A".toList) ≠
        (Placeholder.decoded rate.text "rate=%{rate}".toList).toList ∧
      Placeholder.decoded rate.text "rate=%{rate}".toList = "rate=%41" := by
  have hmissing : rateAfterPercent.missing rate = [] := by decide
  have hexpand : expandBody rate "utf-8" "rate=%{rate}" =
      .ok (Charset.Utf8.encode "rate=A".toList) := by
    rfl
  have hmeant : Placeholder.decoded rate.text "rate=%{rate}".toList = "rate=%41" := by
    decide +kernel
  refine ⟨by decide, hmissing, ⟨_, expand_of_expandBody hmissing rfl hexpand, rfl⟩, ?_, hmeant⟩
  rw [hmeant, Charset.Utf8.decode_encode]
  decide

end Template

end HttpInterface
