import HttpInterface.Text.Blank
import HttpInterface.Text.Digit

/-!
# `HttpInterface.RequestLine`: the verb and the target of a request

A request line is `VERB target`, with an HTTP version behind the target that
says nothing and is dropped. The verb is the first word and made of `A` to `Z`
only. The target is all the rest and may hold blanks; a verb that stands alone
has the empty target. A version is dropped only behind a target.
-/

set_option autoImplicit false

namespace HttpInterface

/-- The two parts of a request line. -/
structure RequestLine where
  verb : String
  target : String
  deriving DecidableEq, Repr

namespace RequestLine

/-- One or more of `A` to `Z`. -/
def isVerb (cs : List Char) : Bool :=
  !cs.isEmpty && cs.all fun c => 'A' ≤ c && c ≤ 'Z'

/-- Digits of any script, at least one. -/
def isDigits (cs : List Char) : Bool :=
  !cs.isEmpty && cs.all Text.isDecimalDigit

/-- A version number: digits, and more digits after a point if there is one. -/
def isVersionNumber (cs : List Char) : Bool :=
  let whole := cs.takeWhile (· ≠ '.')
  match cs.dropWhile (· ≠ '.') with
  | [] => isDigits whole
  | _ :: fraction => isDigits whole && isDigits fraction

/-- A version, such as `HTTP/1.1`. -/
def isVersion : List Char → Bool
  | 'H' :: 'T' :: 'T' :: 'P' :: '/' :: number => isVersionNumber number
  | _ => false

/-- Drops a version that is the last word, unless it is the only one. -/
def dropVersion (cs : List Char) : List Char :=
  match Text.cutLastWord cs with
  | ([], _) => cs
  | (front, word) => if isVersion word then front else cs

/-- Reads a request line; `none` if its first word is no verb. -/
def parse? (line : String) : Option RequestLine :=
  let (verb, rest) := Text.cutFirstWord (Text.trim line.toList)
  if isVerb verb then
    some ⟨String.ofList verb, String.ofList (dropVersion rest)⟩
  else none

end RequestLine

end HttpInterface
