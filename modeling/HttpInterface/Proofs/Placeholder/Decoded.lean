import HttpInterface.Proofs.Percent.Unquote
import HttpInterface.Proofs.Placeholder

/-!
# `HttpInterface.Proofs.Placeholder.Decoded`: unquoting a filled text

A text with placeholders has two kinds of runs, literals and slots (`runs`). `decoded` is what the
text means: each literal unquoted, and a text of its own for each slot. `unquote_filled` says that
the text is unquoted to just that if it is filled with quoted texts. It takes that no slot follows
a literal that is cut off within an escape or a character (`Separable`): behind `%` the text that
fills the slot is taken for the digits of the escape.
-/

set_option autoImplicit false

namespace HttpInterface.Placeholder

/-- A part of a text that is plain throughout, or a placeholder. -/
inductive Run where
  /-- Characters that stand for themselves. -/
  | literal (cs : List Char)
  /-- A placeholder, by its name. -/
  | slot (name : String)
  deriving DecidableEq, Repr

/-- Puts one more piece in front of runs. -/
def Run.attach : Piece → List Run → List Run
  | .char c, .literal cs :: rest => .literal (c :: cs) :: rest
  | .char c, rest => .literal [c] :: rest
  | .slot name, rest => .slot name :: rest

/-- The runs of a text: its literals are as long as they can be. -/
def runs (cs : List Char) : List Run :=
  (scan cs).foldr Run.attach []

/-- What a run becomes when `f name` stands for every placeholder `name`. -/
def Run.filled (f : String → String) : Run → List Char
  | .literal cs => cs
  | .slot name => (f name).toList

theorem flatMap_filled_attach (f : String → String) (p : Piece) (rest : List Run) :
    (Run.attach p rest).flatMap (Run.filled f) = p.filled f ++ rest.flatMap (Run.filled f) := by
  match p, rest with
  | .char _, .literal _ :: _ => rfl
  | .char _, .slot _ :: _ => rfl
  | .char _, [] => rfl
  | .slot _, _ => rfl

/-- A text is filled run by run. -/
theorem flatMap_filled_runs (f : String → String) (cs : List Char) :
    (runs cs).flatMap (Run.filled f) = filled f cs := by
  rw [runs, filled]
  induction scan cs with
  | nil => rfl
  | cons p ps ih => rw [List.foldr_cons, flatMap_filled_attach, ih, List.flatMap_cons]

theorem slot_mem_attach {p : Piece} {rest : List Run} {name : String} :
    .slot name ∈ Run.attach p rest ↔ p = .slot name ∨ .slot name ∈ rest := by
  match p, rest with
  | .char _, .literal _ :: _ => simp [Run.attach]
  | .char _, .slot _ :: _ => simp [Run.attach]
  | .char _, [] => simp [Run.attach]
  | .slot _, _ => simp [Run.attach, eq_comm]

/-- The placeholders of a text are those of its runs. -/
theorem slot_mem_runs {cs : List Char} {name : String} :
    .slot name ∈ runs cs ↔ name ∈ slots cs := by
  rw [runs, slots]
  induction scan cs with
  | nil => simp
  | cons p ps ih =>
    rw [List.foldr_cons, slot_mem_attach, ih]
    cases p with
    | char c => simp [Piece.name?]
    | slot other => simp [Piece.name?, eq_comm]

/-- A character of a literal is one of the text. -/
theorem mem_of_literal_mem_runs {cs literal : List Char} (h : .literal literal ∈ runs cs) {c : Char}
    (hc : c ∈ literal) : c ∈ cs := by
  -- It is there when nothing fills the slots.
  have hfilled : c ∈ filled (fun _ => "") cs := by
    rw [← flatMap_filled_runs]
    exact List.mem_flatMap.2 ⟨_, h, hc⟩
  rcases mem_filled hfilled with hmem | ⟨name, -, hmem⟩
  · exact hmem
  · exact absurd hmem List.not_mem_nil

/-- What a run means: a literal is unquoted, and `f name` stands for a placeholder as it is. -/
def Run.decoded (f : String → String) : Run → List Char
  | .literal cs => (Percent.unquote (String.ofList cs)).toList
  | .slot name => (f name).toList

/-- A text unquoted, with `f name` in the place of every placeholder `name`. -/
def decoded (f : String → String) (cs : List Char) : String :=
  String.ofList ((runs cs).flatMap (Run.decoded f))

/-- What follows the run is read on its own. -/
def Run.IsClosed : Run → Prop
  | .literal cs => Percent.IsClosed cs
  | .slot _ => True

instance (run : Run) : Decidable run.IsClosed :=
  match run with
  | .literal cs => inferInstanceAs (Decidable (Percent.IsClosed cs))
  | .slot _ => isTrue trivial

/-- Without `%` there is nothing to unquote. -/
theorem decoded_of_not_mem {cs : List Char} (h : '%' ∉ cs) (f : String → String) :
    decoded f cs = String.ofList (filled f cs) := by
  rw [decoded, ← flatMap_filled_runs, List.flatMap_def, List.flatMap_def]
  have hruns : ∀ run ∈ runs cs, run.decoded f = run.filled f := by
    intro run hrun
    cases run with
    | slot name => rfl
    | literal literal =>
      have hliteral : '%' ∉ literal := fun hmem => h (mem_of_literal_mem_runs hrun hmem)
      rw [Run.decoded, Percent.unquote_eq, String.toList_ofList, String.toList_ofList,
        Percent.bytesOfText_of_not_mem hliteral, Charset.Utf8.decode_encode]
      rfl
  rw [List.map_congr_left hruns]

/-- Every run that another one follows is closed. -/
def Separable (cs : List Char) : Prop :=
  ∀ run ∈ (runs cs).dropLast, run.IsClosed

instance (cs : List Char) : Decidable (Separable cs) :=
  inferInstanceAs (Decidable (∀ run ∈ (runs cs).dropLast, run.IsClosed))

/-- A text without `%` is separable. -/
theorem separable_of_not_mem {cs : List Char} (h : '%' ∉ cs) : Separable cs := by
  intro run hrun
  cases run with
  | slot name => trivial
  | literal literal =>
    refine Percent.isClosed_of_not_mem fun hmem => h ?_
    exact mem_of_literal_mem_runs (List.dropLast_subset _ hrun) hmem

/-- A text that is filled with quoted texts is unquoted to what it means. -/
theorem unquote_filled {cs : List Char} (h : Separable cs) (f : String → String) :
    Percent.unquote (String.ofList (filled (fun name => Percent.quote (f name)) cs)) =
      decoded f cs := by
  rw [Percent.unquote_eq, String.toList_ofList, ← flatMap_filled_runs, decoded]
  refine congrArg String.ofList ?_
  rw [Separable] at h
  generalize runs cs = all at h
  induction all with
  | nil => rfl
  | cons run rest ih =>
    have hrest : ∀ run ∈ rest.dropLast, run.IsClosed := by
      intro next hnext
      cases rest with
      | nil => exact absurd hnext List.not_mem_nil
      | cons => exact h next (List.mem_cons_of_mem _ hnext)
    rw [List.flatMap_cons, List.flatMap_cons, ← ih hrest]
    cases run with
    | slot name => exact Percent.decode_quote_append _ _
    | literal literal =>
      have hliteral : Run.decoded f (.literal literal) =
          Charset.Utf8.decode (Percent.bytesOfText literal) := by
        rw [Run.decoded, Percent.unquote_eq, String.toList_ofList, String.toList_ofList]
      rw [hliteral, Run.filled]
      -- The last run needs not be closed: nothing follows it.
      cases rest with
      | nil =>
        rw [List.flatMap_nil, List.append_nil]
        exact (List.append_nil _).symm
      | cons next rest =>
        have hclosed : Percent.IsClosed literal := h (.literal literal) List.mem_cons_self
        exact hclosed.decode_append _

/-- Behind a complete escape a placeholder is filled with a text of its own. -/
example : Separable "a%2F{name}".toList := by decide

/-- Behind `%` it goes on with the escape. -/
example : ¬Separable "a%{name}".toList := by decide

end HttpInterface.Placeholder
