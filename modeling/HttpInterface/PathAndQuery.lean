import HttpInterface.Text.Split

/-!
# `HttpInterface.PathAndQuery`: a path and the entries of its query

A path ends at the first `?`. The entries of the query stand between `&`, and
an entry ends its key at the first `=`; an entry without `=` is a flag, which
has no value. Empty entries are skipped. Nothing is decoded, so placeholders
pass unchanged. `render` is the other direction.
-/

set_option autoImplicit false

namespace HttpInterface

/-- One entry of a query: a key with its value, or a flag. -/
abbrev QueryEntry := String × Option String

/-- The text of an entry: the key alone for a flag. -/
def QueryEntry.text : QueryEntry → String
  | (key, none) => key
  | (key, some value) => key ++ "=" ++ value

/-- The entry that a text between two `&` stands for. -/
def QueryEntry.ofChars (cs : List Char) : QueryEntry :=
  match Text.cut '=' cs with
  | (key, value) => (String.ofList key, value.map String.ofList)

/-- The entries as one text, with `&` between them. -/
def QueryEntry.join (entries : List QueryEntry) : String :=
  String.ofList (Text.joinWith '&' (entries.map fun e => e.text.toList))

/-- A path and the entries of its query, in order. -/
structure PathAndQuery where
  path : String
  entries : List QueryEntry
  deriving DecidableEq, Repr

namespace PathAndQuery

/-- Reads the entries of a query. -/
def readEntries (query : List Char) : List QueryEntry :=
  ((Text.splitOn '&' query).filter fun cs => !cs.isEmpty).map QueryEntry.ofChars

/-- Reads a path and its query. -/
def parse (text : String) : PathAndQuery :=
  match Text.cut '?' text.toList with
  | (path, none) => ⟨String.ofList path, []⟩
  | (path, some query) => ⟨String.ofList path, readEntries query⟩

/-- Writes a path and its query; the `?` only if there is an entry. -/
def render (p : PathAndQuery) : String :=
  match p.entries with
  | [] => p.path
  | entries => p.path ++ "?" ++ QueryEntry.join entries

end PathAndQuery

end HttpInterface
