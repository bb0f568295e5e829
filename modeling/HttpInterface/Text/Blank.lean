/-!
# `HttpInterface.Text.Blank`: blank characters and trimming

A text is read as the list of its characters. A blank separates words: the
ASCII blanks, the four information separators, and every Unicode space.
Trimming removes blanks at the ends, `words`-like cutting happens at the first
or the last run of blanks.
-/

set_option autoImplicit false

namespace HttpInterface.Text

/-- The ranges of code points that separate words, both ends included. -/
def blankRanges : List (Nat × Nat) :=
  [(0x09, 0x0D), (0x1C, 0x20), (0x85, 0x85), (0xA0, 0xA0), (0x1680, 0x1680),
   (0x2000, 0x200A), (0x2028, 0x2029), (0x202F, 0x202F), (0x205F, 0x205F),
   (0x3000, 0x3000)]

/-- A character that separates words. -/
def isBlank (c : Char) : Bool :=
  blankRanges.any fun r => r.1 ≤ c.toNat && c.toNat ≤ r.2

/-- Drops the blanks in front. -/
def trimStart (cs : List Char) : List Char :=
  cs.dropWhile isBlank

/-- Drops the blanks at the end. -/
def trimEnd (cs : List Char) : List Char :=
  (cs.reverse.dropWhile isBlank).reverse

/-- Drops the blanks at both ends. -/
def trim (cs : List Char) : List Char :=
  trimEnd (trimStart cs)

/-- A blank that is no information separator. -/
def isSpace (c : Char) : Bool :=
  isBlank c && !(0x1C ≤ c.toNat && c.toNat ≤ 0x1F)

/-- Drops the blanks at both ends up to the first information separator. -/
def trimSpaces (cs : List Char) : List Char :=
  ((cs.dropWhile isSpace).reverse.dropWhile isSpace).reverse

/-- Cuts off the first word: the characters before the first blank, and what
follows the blanks after it. -/
def cutFirstWord (cs : List Char) : List Char × List Char :=
  (cs.takeWhile (!isBlank ·), trimStart (cs.dropWhile (!isBlank ·)))

/-- Cuts off the last word: what stands before the last run of blanks, and the
characters after it. -/
def cutLastWord (cs : List Char) : List Char × List Char :=
  (trimEnd (cs.reverse.dropWhile (!isBlank ·)).reverse,
   (cs.reverse.takeWhile (!isBlank ·)).reverse)

/-- A text without outer blanks. -/
def trimmed (s : String) : String :=
  String.ofList (trim s.toList)

end HttpInterface.Text
