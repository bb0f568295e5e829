/-!
# `HttpInterface.Record.Issue`: all that is wrong with a record

An issue is a problem and the place where it was found: the field, then the key
or the position inside it. `Checked` collects issues: reading two values side by
side gives the issues of the first, then those of the second.
-/

set_option autoImplicit false

namespace HttpInterface

/-- What is wrong with a value. -/
inductive Problem where
  /-- A field that has to be there is not. -/
  | missing
  | notText
  | notTuple
  | notMapping
  | notBytes
  /-- The value is of a kind that is never a whole number. -/
  | notInteger
  /-- A text is not the text of a whole number. -/
  | unreadableInteger
  /-- A number is not whole. -/
  | fractionalInteger
  /-- A number has too many digits. -/
  | hugeInteger
  /-- A number is infinite, or none. -/
  | notFinite
  /-- The value is of a kind that is never a truth value. -/
  | notTruth
  /-- The value is neither true nor false. -/
  | unreadableTruth
  /-- No charset has this name. -/
  | unknownCharset (name : String)
  /-- The name of a charset holds the character zero. -/
  | nulInCharset
  deriving DecidableEq, Repr

/-- A problem and where it was found, outermost part first. -/
structure Issue where
  location : List String
  problem : Problem
  deriving DecidableEq, Repr

/-- The text of a problem. -/
def Problem.message : Problem → String
  | .missing => "Field required"
  | .notText => "Input should be a valid string"
  | .notTuple => "Input should be a valid tuple"
  | .notMapping => "Input should be a valid mapping"
  | .notBytes => "Input should be a valid bytes"
  | .notInteger => "Input should be a valid integer"
  | .unreadableInteger =>
    "Input should be a valid integer, unable to parse string as an integer"
  | .fractionalInteger =>
    "Input should be a valid integer, got a number with a fractional part"
  | .hugeInteger => "Unable to parse input string as an integer, exceeded maximum size"
  | .notFinite => "Input should be a finite number"
  | .notTruth => "Input should be a valid boolean"
  | .unreadableTruth => "Input should be a valid boolean, unable to interpret input"
  | .unknownCharset name => s!"Value error, Unknown body charset: {name}"
  | .nulInCharset => "Value error, embedded null character"

/-- The code of a problem. -/
def Problem.code : Problem → String
  | .missing => "missing"
  | .notText => "string_type"
  | .notTuple => "tuple_type"
  | .notMapping => "mapping_type"
  | .notBytes => "bytes_type"
  | .notInteger => "int_type"
  | .unreadableInteger => "int_parsing"
  | .fractionalInteger => "int_from_float"
  | .hugeInteger => "int_parsing_size"
  | .notFinite => "finite_number"
  | .notTruth => "bool_type"
  | .unreadableTruth => "bool_parsing"
  | .unknownCharset _ | .nulInCharset => "value_error"

/-- The text of an issue: where, what, and the code. -/
def Issue.message (i : Issue) : String :=
  ".".intercalate i.location ++ s!": {i.problem.message} [{i.problem.code}]"

/-- The text of all issues. -/
def Issue.messages (issues : List Issue) : String :=
  "; ".intercalate (issues.map Issue.message)

/-- A value that was read, or all that is wrong with it. -/
inductive Checked (α : Type) where
  | ok (value : α)
  | bad (issues : List Issue)

namespace Checked

variable {α β : Type}

/-- The issues found. -/
def issues : Checked α → List Issue
  | ok _ => []
  | bad issues => issues

/-- Applies what was read first to what was read next; the issues of both
count. -/
def apply (f : Checked (α → β)) (x : Checked α) : Checked β :=
  match f, x with
  | ok g, ok a => ok (g a)
  | f, x => bad (f.issues ++ x.issues)

instance : Applicative Checked where
  pure := ok
  seq f x := apply f (x ())

/-- The same issues, found inside a part. -/
def inside (part : String) : Checked α → Checked α
  | ok a => ok a
  | bad issues => bad (issues.map fun i => ⟨part :: i.location, i.problem⟩)

/-- A problem with the value itself. -/
def problem (p : Problem) : Checked α :=
  bad [⟨[], p⟩]

/-- One more test on a value that was read. -/
def withTest (x : Checked α) (test : α → Option Problem) : Checked α :=
  match x with
  | ok a => (test a).elim (ok a) problem
  | bad issues => bad issues

/-- The result and the issues as the two sides of an exception. -/
def toExcept : Checked α → Except (List Issue) α
  | ok a => .ok a
  | bad issues => .error issues

end Checked

end HttpInterface
