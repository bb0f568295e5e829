/-!
# `HttpInterface.Text.Similar`: words that are nearly the same

Two words are compared by what they have in common: their longest common run of
characters, and then, again and again, the longest common runs in front of it
and behind it. Words are similar if these characters make up at least three
fifths of both words together.

Of several longest runs the one that starts first in the first word counts, and
then the one that starts first in the second.
-/

set_option autoImplicit false

namespace HttpInterface.Text

/-- A run of characters that two words have in common. -/
structure CommonRun where
  /-- Where it starts in the first word. -/
  first : Nat
  /-- Where it starts in the second word. -/
  second : Nat
  size : Nat
  deriving DecidableEq, Repr

/-- How many characters two texts share from their start on. -/
def commonStart : List Char → List Char → Nat
  | c :: cs, d :: ds => if c = d then commonStart cs ds + 1 else 0
  | _, _ => 0

/-- A word from each of its characters on. -/
def rests : List Char → List (List Char)
  | [] => []
  | c :: cs => (c :: cs) :: rests cs

/-- The runs that start at the same place of the first word. -/
def runsFrom (first : Nat) (cs ds : List Char) : List CommonRun :=
  (rests ds).mapIdx fun second rest => ⟨first, second, commonStart cs rest⟩

/-- The longest run of two words; its size is zero if they share nothing. -/
def longestRun (cs ds : List Char) : CommonRun :=
  let all := ((rests cs).mapIdx fun first rest => runsFrom first rest ds).flatten
  all.foldl (fun best run => if best.size < run.size then run else best) ⟨0, 0, 0⟩

/-- How many characters two words have in common. -/
def commonCount (cs ds : List Char) : Nat :=
  match longestRun cs ds with
  | ⟨first, second, size⟩ =>
    if _h : first < cs.length ∧ 0 < size then
      commonCount (cs.take first) (ds.take second) + size +
        commonCount (cs.drop (first + size)) (ds.drop (second + size))
    else 0
termination_by cs.length
decreasing_by
  · rw [List.length_take]
    omega
  · rw [List.length_drop]
    omega

/-- The words are similar. What they have in common is at most the shorter of
them, so a word that is much longer is not compared at all. -/
def isSimilar (a b : String) : Bool :=
  let cs := a.toList
  let ds := b.toList
  let enough (common : Nat) : Bool := 3 * (cs.length + ds.length) ≤ 10 * common
  enough (min cs.length ds.length) && enough (commonCount cs ds)

end HttpInterface.Text
