import HttpInterface.Text.Split

/-!
# `HttpInterface.Url.Parts`: the parts of a URL as they stand in a text

A text is split into scheme, authority, path, query and fragment. The authority
is split again into the user part, the host and the port. Nothing is decoded and
nothing is refused: every text has parts.
-/

set_option autoImplicit false

namespace HttpInterface

namespace Url

/-- The parts of a URL as they stand in the text. -/
structure Parts where
  scheme : List Char
  authority : List Char
  path : List Char
  query : Option (List Char)
  fragment : Option (List Char)
  deriving DecidableEq, Repr

/-- A character that may follow the first letter of a scheme. -/
def isSchemeChar (c : Char) : Bool :=
  c.isAlphanum || c == '+' || c == '.' || c == '-'

/-- A scheme: a letter and scheme characters, or nothing at all. -/
def isScheme : List Char → Bool
  | [] => true
  | c :: rest => c.isAlpha && rest.all isSchemeChar

/-- Splits off the scheme, if the text starts with one and a colon. -/
def splitScheme (cs : List Char) : List Char × List Char :=
  match Text.cut ':' cs with
  | (front, some rest) => if isScheme front then (front, rest) else ([], cs)
  | (_, none) => ([], cs)

/-- Splits off the authority, if the text starts with two slashes. -/
def splitAuthority : List Char → List Char × List Char
  | '/' :: '/' :: rest =>
    let ends (c : Char) : Bool := c == '/' || c == '?' || c == '#'
    (rest.takeWhile (!ends ·), rest.dropWhile (!ends ·))
  | cs => ([], cs)

/-- Splits a text into its parts: the fragment starts at the first `#`, the
query at the first `?` before it. -/
def split (cs : List Char) : Parts :=
  let (scheme, afterScheme) := splitScheme cs
  let (authority, rest) := splitAuthority afterScheme
  let (front, fragment) := Text.cut '#' rest
  let (path, query) := Text.cut '?' front
  ⟨scheme, authority, path, query, fragment⟩

/-- The parts of an authority as they stand in the text. -/
structure Authority where
  userinfo : List Char
  host : List Char
  port : List Char
  deriving DecidableEq, Repr

/-- Splits off the host: up to the last bracket if it starts with one, else up to
the first colon. -/
def splitHost (cs : List Char) : List Char × List Char :=
  match cs with
  | '[' :: rest =>
    if ']' ∈ rest then
      let tail := (cs.reverse.takeWhile (· ≠ ']')).reverse
      (cs.take (cs.length - tail.length), tail)
    else (cs.takeWhile (· ≠ ':'), cs.dropWhile (· ≠ ':'))
  | _ => (cs.takeWhile (· ≠ ':'), cs.dropWhile (· ≠ ':'))

/-- Splits an authority: the user part ends at the last `@`. -/
def splitAuthorityParts (cs : List Char) : Authority :=
  let (userinfo, rest) :=
    if '@' ∈ cs then
      let rest := (cs.reverse.takeWhile (· ≠ '@')).reverse
      (cs.take (cs.length - rest.length - 1), rest)
    else ([], cs)
  let (host, tail) := splitHost rest
  match tail with
  | ':' :: port => ⟨userinfo, host, port⟩
  | port => ⟨userinfo, host, port⟩

end Url

end HttpInterface
