import HttpInterface.Text.Blank

/-!
# `HttpInterface.Command.Bindings`: the text of a file that sets variables

The file holds statements, one after the other. A statement binds a name to a
value, `NAME=value` with or without `export` in front, and a comment may follow
it. A name without `=` is bound to no value. The value stands between quotes, in
which a backslash may escape a character and lines may end, or it is the rest of
the line without a comment that a blank parts from it.

A statement that is malformed binds nothing; reading goes on behind the end of
its line. A text ends a line in any of three ways, and `normalLines` leaves one. A mark of
the encoding may stand in front of everything.
-/

set_option autoImplicit false

namespace HttpInterface.Command

/-- A statement of a file. -/
inductive Statement where
  /-- A name and its value. -/
  | binding (name : String) (value : Option String)
  /-- A comment, or blanks at the end. -/
  | comment
  | malformed
  deriving DecidableEq, Repr

namespace Statement

/-! ### Parts of a statement -/

/-- A text in which every line ends in the same way. -/
def normalLines : List Char → List Char
  | '\r' :: '\n' :: rest => '\n' :: normalLines rest
  | '\r' :: rest => '\n' :: normalLines rest
  | c :: rest => c :: normalLines rest
  | [] => []

/-- A blank that does not end a line. -/
def isInlineBlank (c : Char) : Bool :=
  Text.isBlank c && c != '\n'

/-- Drops the blanks in front that do not end a line. -/
def skipInline (cs : List Char) : List Char :=
  cs.dropWhile isInlineBlank

/-- Drops `export` and the blanks behind it, of which there has to be one. -/
def skipExport : List Char → List Char
  | 'e' :: 'x' :: 'p' :: 'o' :: 'r' :: 't' :: c :: rest =>
    if isInlineBlank c then skipInline rest else 'e' :: 'x' :: 'p' :: 'o' :: 'r' :: 't' :: c :: rest
  | cs => cs

/-- A character that may stand in a name without quotes. -/
def isNameChar (c : Char) : Bool :=
  c != '=' && c != '#' && !Text.isBlank c

/-- Reads a name, which is not empty. -/
def readName? : List Char → Option (List Char × List Char)
  | '\'' :: rest =>
    match rest.takeWhile (· ≠ '\''), rest.dropWhile (· ≠ '\'') with
    | c :: name, _ :: behind => some (c :: name, behind)
    | _, _ => none
  | cs =>
    match cs.takeWhile isNameChar with
    | [] => none
    | name => some (name, cs.dropWhile isNameChar)

/-- Reads up to the quote that ends a value. A character behind a backslash does not
end it. -/
def readQuoted? (quote : Char) : List Char → Option (List Char × List Char)
  | '\\' :: c :: rest =>
    (readQuoted? quote rest).map fun (value, behind) => ('\\' :: c :: value, behind)
  | c :: rest =>
    if c = quote then some ([], rest)
    else (readQuoted? quote rest).map fun (value, behind) => (c :: value, behind)
  | [] => none

/-- The escapes between single quotes. -/
def singleEscapes : List (Char × Char) :=
  [('\\', '\\'), ('\'', '\'')]

/-- The escapes between double quotes. -/
def doubleEscapes : List (Char × Char) :=
  [('\\', '\\'), ('\'', '\''), ('"', '"'), ('a', '\x07'), ('b', '\x08'), ('f', '\x0c'),
   ('n', '\n'), ('r', '\r'), ('t', '\t'), ('v', '\x0b')]

/-- A text with its escapes replaced; a backslash in front of any other character
stays. -/
def unescape (escapes : List (Char × Char)) : List Char → List Char
  | '\\' :: c :: rest =>
    match escapes.lookup c with
    | some d => d :: unescape escapes rest
    | none => '\\' :: unescape escapes (c :: rest)
  | c :: rest => c :: unescape escapes rest
  | [] => []

/-- A text up to the first blanks that a `#` follows. -/
def dropComment : List Char → List Char
  | [] => []
  | c :: rest =>
    if Text.isBlank c && (Text.trimStart rest).head? == some '#' then []
    else c :: dropComment rest

/-- Reads a value and the blanks in front of it. Nothing is read if a quote is not
closed. -/
def readValue? (cs : List Char) : Option (List Char × List Char) :=
  match skipInline cs with
  | '\'' :: rest =>
    (readQuoted? '\'' rest).map fun (value, behind) => (unescape singleEscapes value, behind)
  | '"' :: rest =>
    (readQuoted? '"' rest).map fun (value, behind) => (unescape doubleEscapes value, behind)
  | _ =>
    let value := dropComment (cs.takeWhile (· ≠ '\n'))
    some (Text.trimEnd (Text.trimStart value), cs.dropWhile (· ≠ '\n'))

/-- Drops a comment and the end of the line, unless something else follows. -/
def readEnd? (cs : List Char) : Option (List Char) :=
  let behind :=
    match skipInline cs with
    | '#' :: rest => rest.dropWhile (· ≠ '\n')
    | rest => rest
  match behind with
  | [] => some []
  | '\n' :: rest => some rest
  | _ => none

/-- What follows the line. -/
def nextLine (cs : List Char) : List Char :=
  (cs.dropWhile (· ≠ '\n')).drop 1

/-! ### Statements -/

/-- A statement that is complete if its line ends here. -/
def finish (s : Statement) (cs : List Char) : Statement × List Char :=
  match readEnd? cs with
  | some rest => (s, rest)
  | none => (.malformed, nextLine cs)

/-- Reads a binding. -/
def readBinding (cs : List Char) : Statement × List Char :=
  match readName? cs with
  | none => (.malformed, nextLine cs)
  | some (name, rest) =>
    let name := String.ofList name
    match skipInline rest with
    | '=' :: rest =>
      match readValue? rest with
      | some (value, rest) => finish (.binding name (some (String.ofList value))) rest
      | none => (.malformed, nextLine rest)
    | rest => finish (.binding name none) rest

/-- Reads one statement and the blanks in front of it. -/
def read (cs : List Char) : Statement × List Char :=
  match Text.trimStart cs with
  | [] => (.comment, [])
  | cs =>
    match skipExport cs with
    | '#' :: rest => finish .comment ('#' :: rest)
    | rest => readBinding rest

/-- Reads all statements. A statement is never empty, so that each leaves less to
be read. -/
def readAll (cs : List Char) : List (Statement × List Char) :=
  let (statement, rest) := read cs
  if _h : rest.length < cs.length then (statement, cs) :: readAll rest else []
termination_by cs.length
decreasing_by exact _h

end Statement

/-- A text without the mark that may stand at its very front to tell its encoding. -/
def withoutMark : List Char → List Char
  | '\ufeff' :: rest => rest
  | cs => cs

/-- The statements of a text, each with the number of the line at which reading it
began. -/
def statementsOf (text : String) : List (Statement × Nat) :=
  let all := Statement.normalLines (withoutMark text.toList)
  let ends (cs : List Char) : Nat := cs.count '\n'
  (Statement.readAll all).map fun (statement, rest) => (statement, ends all - ends rest + 1)

end HttpInterface.Command
