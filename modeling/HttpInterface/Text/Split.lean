/-!
# `HttpInterface.Text.Split`: cutting a text at a separator

`cut` divides at the first separator, `splitOn` at every one. Neither trims:
putting the parts back with the separator between them gives the text again.
-/

set_option autoImplicit false

namespace HttpInterface.Text

/-- What stands before the first `sep`, and what stands after it if there is
one. -/
def cut (sep : Char) : List Char → List Char × Option (List Char)
  | [] => ([], none)
  | c :: r =>
    if c = sep then ([], some r)
    else
      let parts := cut sep r
      (c :: parts.1, parts.2)

/-- The pieces between the separators: one more than there are separators. -/
def splitOn (sep : Char) : List Char → List (List Char)
  | [] => [[]]
  | c :: r =>
    if c = sep then [] :: splitOn sep r
    else
      match splitOn sep r with
      | [] => [[c]]
      | piece :: pieces => (c :: piece) :: pieces

/-- The pieces with `sep` between them. -/
def joinWith (sep : Char) : List (List Char) → List Char
  | [] => []
  | [piece] => piece
  | piece :: pieces => piece ++ sep :: joinWith sep pieces

theorem splitOn_ne_nil (sep : Char) (cs : List Char) : splitOn sep cs ≠ [] := by
  cases cs with
  | nil => exact List.cons_ne_nil _ _
  | cons c r =>
    unfold splitOn
    split
    · exact List.cons_ne_nil _ _
    · split <;> exact List.cons_ne_nil _ _

/-- Splitting loses nothing. -/
theorem joinWith_splitOn (sep : Char) (cs : List Char) : joinWith sep (splitOn sep cs) = cs := by
  induction cs with
  | nil => rfl
  | cons c r ih =>
    unfold splitOn
    split
    · next h =>
      obtain ⟨piece, pieces, hs⟩ := List.exists_cons_of_ne_nil (splitOn_ne_nil sep r)
      rw [hs] at ih ⊢
      rw [show joinWith sep ([] :: piece :: pieces) =
        sep :: joinWith sep (piece :: pieces) from rfl, ih, h]
    · split
      · next hs => exact absurd hs (splitOn_ne_nil sep r)
      · next piece pieces hs =>
        rw [hs] at ih
        rw [← ih]
        cases pieces <;> rfl

end HttpInterface.Text
