/-!
# `HttpInterface.Sequence`: searching, cutting and filling rows of characters or bytes

Texts are rows of characters, and bytes are rows of bytes. Both are searched, cut into
pieces, stripped and filled up in the same way.
-/

set_option autoImplicit false

namespace HttpInterface.Sequence

variable {α : Type}

/-! ### Positions -/

/-- The place of a position, which may be counted from the end. -/
def place? (length : Nat) (position : Int) : Option Nat :=
  let place := if position < 0 then position + length else position
  if 0 ≤ place ∧ place < length then some place.toNat else none

/-- A bound that may be counted from the end, between nothing and the length. -/
def clamp (length : Nat) (bound : Int) : Nat :=
  (if bound < 0 then bound + length else bound).toNat

/-- The part between two bounds as its start and its length; none if the start is behind
the end. -/
def window? (length : Nat) (start stop : Option Int) : Option (Nat × Nat) :=
  let first := (start.map (clamp length)).getD 0
  let last := min length ((stop.map (clamp length)).getD length)
  if first ≤ last then some (first, last - first) else none

/-- The positions that a slice takes, in its order. A negative step goes from the end to
the start. -/
def slicePositions (length : Nat) (start stop : Option Int) (step : Int) : List Nat :=
  let fromStart (i : Int) : Int := if i < 0 then i + length else i
  if 0 < step then
    let first := max 0 ((start.map fromStart).getD 0)
    let last := (stop.map fromStart).getD length
    (List.range length).filter fun i =>
      first ≤ (i : Int) && (i : Int) < last && Int.emod (i - first) step == 0
  else
    let first := min (length - 1 : Int) ((start.map fromStart).getD (length - 1))
    let last := (stop.map fromStart).getD (-1)
    (List.range length).reverse.filter fun i =>
      (i : Int) ≤ first && last < (i : Int) && Int.emod (first - i) (-step) == 0

/-- The items that a slice takes. -/
def slice (items : List α) (start stop : Option Int) (step : Int) : List α :=
  let row := items.toArray
  (slicePositions row.size start stop step).filterMap fun i => row[i]?

/-- The items some times over. -/
def repeated (items : List α) (times : Int) : List α :=
  (List.replicate times.toNat items).flatten

/-! ### Searching -/

variable [BEq α]

/-- The place of the first occurrence of a part. -/
def indexOf? (part : List α) : List α → Option Nat
  | [] => if part.isEmpty then some 0 else none
  | c :: rest => if part.isPrefixOf (c :: rest) then some 0 else (indexOf? part rest).map (· + 1)

/-- The place of the last occurrence of a part. -/
def lastIndexOf? (part items : List α) : Option Nat :=
  (indexOf? part.reverse items.reverse).map fun i => items.length - part.length - i

/-- The place of a part between two bounds, the first one or the last. -/
def find? (fromEnd : Bool) (part items : List α) (start stop : Option Int) : Option Nat := do
  let (first, length) ← window? items.length start stop
  let inner := (items.drop first).take length
  let place ← if fromEnd then lastIndexOf? part inner else indexOf? part inner
  pure (first + place)

/-- How often a part occurs, one occurrence behind the other; `skip` items belong to one
that is counted. -/
def countFrom (part : List α) (skip : Nat) : List α → Nat
  | [] => 0
  | c :: rest =>
    if 0 < skip then countFrom part (skip - 1) rest
    else if part.isPrefixOf (c :: rest) then 1 + countFrom part (part.length - 1) rest
    else countFrom part 0 rest

/-- How often a part occurs between two bounds. The empty part stands around every item. -/
def count (part items : List α) (start stop : Option Int) : Nat :=
  match window? items.length start stop with
  | some (first, length) =>
    if part.isEmpty then length + 1
    else countFrom part 0 ((items.drop first).take length)
  | none => 0

/-- The items between two bounds start, or end, with a part. -/
def touches (atEnd : Bool) (part items : List α) (start stop : Option Int) : Bool :=
  match window? items.length start stop with
  | some (first, length) =>
    let inner := (items.drop first).take length
    if atEnd then part.isSuffixOf inner else part.isPrefixOf inner
  | none => false

/-! ### Cutting -/

/-- What stands before a part and behind it, where it occurs first. -/
def cut? (part items : List α) : Option (List α × List α) :=
  (indexOf? part items).map fun i => (items.take i, items.drop (i + part.length))

/-- What stands before a part and behind it, where it occurs last. -/
def cutLast? (part items : List α) : Option (List α × List α) :=
  (lastIndexOf? part items).map fun i => (items.take i, items.drop (i + part.length))

/-- The pieces between the occurrences of a part that is not empty, cut at most so often.
`taken` are the items of the piece so far, last one first, and `skip` items belong to the
occurrence. -/
def splitFrom (part : List α) (limit skip : Nat) (taken : List α) : List α → List (List α)
  | [] => [taken.reverse]
  | c :: rest =>
    if 0 < skip then splitFrom part limit (skip - 1) taken rest
    else if 0 < limit && part.isPrefixOf (c :: rest) then
      taken.reverse :: splitFrom part (limit - 1) (part.length - 1) [] rest
    else splitFrom part limit 0 (c :: taken) rest

/-- The pieces between the occurrences of a part, cut at most so often. -/
def splitBy (part : List α) (limit : Nat) (items : List α) : List (List α) :=
  splitFrom part limit 0 [] items

/-- The pieces between the occurrences of a part, cut at most so often from the end. -/
def splitByLast (part : List α) (limit : Nat) (items : List α) : List (List α) :=
  ((splitBy part.reverse limit items.reverse).map List.reverse).reverse

/-- The words between blanks, cut at most so often; what is left keeps its blanks within
and at its end. `fuel` bounds how many words there are. -/
def wordsFrom (isBlank : α → Bool) (fuel limit : Nat) (items : List α) : List (List α) :=
  let items := items.dropWhile isBlank
  match fuel, items with
  | _, [] => []
  | 0, _ => []
  | fuel + 1, items =>
    if limit = 0 then [items]
    else
      items.takeWhile (!isBlank ·) ::
        wordsFrom isBlank fuel (limit - 1) (items.dropWhile (!isBlank ·))

/-- The words between blanks, cut at most so often. -/
def words (isBlank : α → Bool) (limit : Nat) (items : List α) : List (List α) :=
  wordsFrom isBlank (items.length + 1) limit items

/-- The words between blanks, cut from the end. -/
def wordsFromEnd (isBlank : α → Bool) (limit : Nat) (items : List α) : List (List α) :=
  ((words isBlank limit items.reverse).map List.reverse).reverse

/-- The lines, with their ends if these are kept. `isEnd` tells a single item that ends a
line, and `isPair` two that end one together. `taken` is the line so far, last item
first. -/
def linesFrom (isEnd : α → Bool) (isPair : α → α → Bool) (keepEnds : Bool) (taken : List α) :
    List α → List (List α)
  | [] => if taken.isEmpty then [] else [taken.reverse]
  | c :: rest =>
    if isEnd c then
      match rest with
      | d :: more =>
        if isPair c d then
          (taken.reverse ++ if keepEnds then [c, d] else []) ::
            linesFrom isEnd isPair keepEnds [] more
        else
          (taken.reverse ++ if keepEnds then [c] else []) ::
            linesFrom isEnd isPair keepEnds [] (d :: more)
      | [] => [taken.reverse ++ if keepEnds then [c] else []]
    else linesFrom isEnd isPair keepEnds (c :: taken) rest

/-! ### Putting together -/

/-- Pieces with a part between them. -/
def joinWith (part : List α) : List (List α) → List α
  | [] => []
  | [piece] => piece
  | piece :: pieces => piece ++ part ++ joinWith part pieces

/-- The items with a part replaced, at most so often. The empty part stands around every
item. -/
def replaceBy (part new : List α) (limit : Nat) (items : List α) : List α :=
  if part.isEmpty then
    let (front, back) := (items.take (limit - 1), items.drop (limit - 1))
    if limit = 0 then items
    else if items.length < limit then front.flatMap (fun c => new ++ [c]) ++ new
    else front.flatMap (fun c => new ++ [c]) ++ new ++ back
  else joinWith new (splitBy part limit items)

/-- The items without those at the ends that pass a test. -/
def strip (front back : Bool) (drops : α → Bool) (items : List α) : List α :=
  let items := if front then items.dropWhile drops else items
  if back then (items.reverse.dropWhile drops).reverse else items

/-- Where items stand in a row that is wider. -/
inductive Alignment where
  | left
  | right
  | center
  deriving DecidableEq, Repr

/-- The items filled up to a width. In the middle an odd rest goes to the left if the
width is odd. -/
def justify (alignment : Alignment) (filler : α) (width : Nat) (items : List α) : List α :=
  let missing := width - items.length
  let fill (n : Nat) : List α := List.replicate n filler
  match alignment with
  | .left => items ++ fill missing
  | .right => fill missing ++ items
  | .center =>
    let left := missing / 2 + (missing % 2) * (width % 2)
    fill left ++ items ++ fill (missing - left)

/-- Items with tabs replaced by blanks up to the next column. `column` is the column
reached. -/
def expandTabs (tab blank : α) (isEnd : α → Bool) (size column : Nat) : List α → List α
  | [] => []
  | c :: rest =>
    if c == tab then
      let width := if size = 0 then 0 else size - column % size
      List.replicate width blank ++ expandTabs tab blank isEnd size (column + width) rest
    else c :: expandTabs tab blank isEnd size (if isEnd c then 0 else column + 1) rest

end HttpInterface.Sequence
