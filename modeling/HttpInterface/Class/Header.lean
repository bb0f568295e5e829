import HttpInterface.Class.Definition
import HttpInterface.Expression.Token
import HttpInterface.Text.Unprintable

/-!
# `HttpInterface.Class.Header`: the heads of functions

The head of a function is its name and its parameters. Names are no reserved words, and what
stands where a name should has to be one. Parameters by position come first and those that have a
value of their own last among them; then come those by name, and at the end the one that takes
all further arguments by name. No two parameters have one name.

A word that can be none is found first, then a function without a name, then a wrong order of
the parameters; a name that is given twice is found last. A function is known under the normal
form of its name, so that a name which is no normal form is not found.
-/

set_option autoImplicit false

namespace HttpInterface

/-- What is wrong with the head of a function. -/
inductive HeaderError where
  /-- The head holds the character that ends every text. -/
  | nul
  /-- The head is not well formed. -/
  | malformed (message : String)
  /-- The function is not known under its name. -/
  | unknown (name : String)
  deriving DecidableEq, Repr

/-- The message of a header error. -/
def HeaderError.message : HeaderError → String
  | nul => "source code string cannot contain null bytes"
  | malformed message => message ++ " (<string>, line 1)"
  | unknown name => Text.quoted name

namespace Header

/-! ### Names -/

/-- What is said of a head that is wrong in no special way. -/
def plainMessage : String := "invalid syntax"

/-- What is said of a character that no word can hold. -/
def characterMessage (c : Char) : String :=
  let digits := (Text.lowerHex 4 c.toNat).map Char.toUpper
  let digits := if 0x10000 ≤ c.toNat then (Text.lowerHex 5 c.toNat).map Char.toUpper else digits
  let code := String.ofList digits
  if Text.isPrintable c then s!"invalid character '{c}' (U+{code})"
  else s!"invalid non-printable character U+{code}"

/-- A character that belongs to a word, whether it may stand in one or not. -/
def isWordChar (c : Char) : Bool :=
  c.isAlphanum || c == '_' || 0x80 ≤ c.toNat

/-- What is wrong with a word that should be a name. -/
def wordProblem? : List Char → Option String
  | [] => none
  | c :: rest =>
    if c.isDigit then
      if c == '0' && !rest.isEmpty && rest.all Char.isDigit && rest.any (· ≠ '0') then
        some ("leading zeros in decimal integer literals are not permitted; use an 0o prefix " ++
          "for octal integers")
      else if rest.all Char.isDigit then none
      else some "invalid decimal literal"
    else if !Text.isNameStart c then some (characterMessage c)
    else (rest.find? fun d => !Text.isNameChar d).map characterMessage

/-- A sign that closes what was not opened. -/
def isClosing (c : Char) : Bool := c == ')' || c == ']' || c == '\x7d'

/-- What is wrong with what stands at the start of a text. -/
def startProblem? (cs : List Char) : Option String :=
  match cs with
  | [] => none
  | c :: _ =>
    if isWordChar c then wordProblem? (cs.takeWhile isWordChar)
    else if c == '\'' || c == '"' then some "unterminated string literal (detected at line 1)"
    else if isClosing c then some s!"unmatched '{c}'"
    else if c.toNat < 0x20 && !Expression.isLineBlank c && c != '\n' && c != '\r' then
      some (characterMessage c)
    else none

/-- What stands in the place of a name: the word in front, and what follows it. -/
def parts (name : String) : List Char × List Char :=
  let cs := Text.trimSpaces name.toList
  (cs.takeWhile isWordChar, (cs.dropWhile isWordChar).dropWhile Expression.isLineBlank)

/-- What is wrong with the words and signs in the place of a name. -/
def signProblem? (name : String) : Option String :=
  let (word, rest) := parts name
  (startProblem? (word ++ rest)).or (startProblem? rest)

/-- What is wrong with what stands in the place of a name if its words and signs are well
formed; `behind` is said of what follows a name. -/
def nameProblem? (behind : String) (name : String) : Option String :=
  let (word, rest) := parts name
  if word.isEmpty || word.head?.any Char.isDigit ||
      Expression.reservedWords.contains (String.ofList word) then
    some plainMessage
  else if rest.isEmpty then none
  else some behind

/-! ### The order of parameters -/

/-- A piece of the row of parameters. -/
inductive Piece where
  /-- A parameter that takes one argument. -/
  | single (hasValue : Bool)
  /-- The sign in front of parameters by name. -/
  | star
  /-- The sign behind parameters by position only. -/
  | slash
  /-- The parameter that takes all further arguments by position. -/
  | rest (hasValue : Bool)
  /-- The parameter that takes all further arguments by name. -/
  | restNamed (hasValue : Bool)
  deriving DecidableEq, Repr

namespace Piece

/-- A parameter that takes one argument. -/
def isSingle : Piece → Bool
  | single _ => true
  | _ => false

/-- A parameter that takes one argument and has no value of its own. -/
def isNeeded : Piece → Bool
  | single hasValue => !hasValue
  | _ => false

end Piece

/-- The pieces of parameters; `isStarred` says that parameters by name may follow. -/
def pieces (isStarred : Bool) : List FunctionParameter → List Piece
  | [] => []
  | p :: others =>
    match p.kind with
    | .normal => .single p.isOptional :: pieces isStarred others
    | .positional =>
      let isLast := (others.head?.map FunctionParameter.kind) ≠ some .positional
      let sign := if isLast then [Piece.slash] else []
      .single p.isOptional :: sign ++ pieces isStarred others
    | .keyword =>
      let sign := if isStarred then [] else [Piece.star]
      sign ++ .single p.isOptional :: pieces true others
    | .restPositional => .rest p.isOptional :: pieces true others
    | .restKeyword => .restNamed p.isOptional :: pieces isStarred others

/-- What follows the parameters by position up to a slash, if there are any. -/
def behindSlash? (row : List Piece) : Option (List Piece) :=
  let values := row.dropWhile Piece.isNeeded
  match values.dropWhile Piece.isSingle with
  | .slash :: behind =>
    if row.head?.any Piece.isSingle && !(values.takeWhile Piece.isSingle).any Piece.isNeeded
    then some behind
    else none
  | _ => none

/-- A parameter without a value of its own stands behind one with it. -/
def hasNeededBehindValue (row : List Piece) : Bool :=
  let values := row.dropWhile Piece.isNeeded
  let hasValue (p : Piece) : Bool := p.isSingle && !p.isNeeded
  let behind := values.dropWhile hasValue
  let behind :=
    match behind with
    | .slash :: more => if (more.head?.any Piece.isNeeded) then more else behind
    | _ => behind
  values.head?.any hasValue && behind.head?.any Piece.isNeeded

/-- What stands behind the first star, if a star without a value is the next sign. -/
def behindStar? (row : List Piece) : Option (List Piece) :=
  match row.dropWhile Piece.isSingle with
  | .star :: behind | .rest false :: behind => some behind
  | _ => none

/-- What is wrong with the parameters by name and those that take all further arguments. -/
def endProblem? (row : List Piece) : Option String :=
  let named : List Piece → Option String
    | [] => none
    | .restNamed true :: _ => some "var-keyword argument cannot have default value"
    | [.restNamed false] => none
    | .restNamed false :: _ => some "arguments cannot follow var-keyword argument"
    | _ => some plainMessage
  match row with
  | .rest true :: _ => some "var-positional argument cannot have default value"
  | .star :: behind | .rest false :: behind =>
    match behind.dropWhile Piece.isSingle with
    | .star :: _ | .rest false :: _ => some "* argument may appear only once"
    | more => named more
  | row => named row

/-- What is wrong with the order of parameters. -/
def orderProblem? (row : List Piece) : Option String :=
  let afterSlash := behindSlash? row
  let inner := afterSlash.getD row
  if hasNeededBehindValue row then some "non-default argument follows default argument"
  else if (afterSlash.map fun behind => behind.dropWhile Piece.isSingle).bind List.head? =
      some .slash then
    some "/ may appear only once"
  else if (behindStar? inner).any fun behind =>
      (behind.dropWhile Piece.isSingle).head? = some .slash then
    some "/ must be ahead of *"
  else
    let values := inner.dropWhile Piece.isNeeded
    let behind := values.dropWhile fun p => p.isSingle && !p.isNeeded
    if behind.head?.any Piece.isSingle then some plainMessage else endProblem? behind

/-- The kinds in the order in which their names are gathered. -/
def gatherOrder : List ParameterKind :=
  [.positional, .normal, .keyword, .restPositional, .restKeyword]

/-- The first name that occurs again. -/
def firstRepeated? (seen : List String) : List String → Option String
  | [] => none
  | name :: rest => if seen.contains name then some name else firstRepeated? (name :: seen) rest

/-- What is wrong with the words, the names and the order in a head. Up to the first parameter
without a name the order of parameters counts more than the name. -/
def problem? (name : String) (parameters : List FunctionParameter) : Option String :=
  let named := parameters.takeWhile fun p => (nameProblem? plainMessage p.name).isNone
  ((name :: parameters.map FunctionParameter.name).findSome? signProblem?)
    |>.or (nameProblem? "expected '('" name)
    |>.or (orderProblem? (pieces false named))
    |>.or (if named.length < parameters.length then some plainMessage else none)

end Header

/-- Checks the head of a function. -/
def FunctionDef.checkHeader (f : FunctionDef) : Except HeaderError Unit := do
  let names := f.name :: f.parameters.map FunctionParameter.name
  if names.any fun name => name.contains '\x00' then throw .nul
  if let some message := Header.problem? f.name f.parameters then throw (.malformed message)
  let gathered := Header.gatherOrder.flatMap fun kind =>
    (f.parameters.filter fun p => p.kind = kind).map FunctionParameter.normalName
  if let some name := Header.firstRepeated? [] gathered then
    throw (.malformed s!"duplicate argument '{name}' in function definition")
  let normal := String.ofList (Text.normalName (Text.trimSpaces f.name.toList))
  if (normal :: gathered).contains "__debug__" then
    throw (.malformed "cannot assign to __debug__")
  if normal ≠ f.name then throw (.unknown f.name)

end HttpInterface
