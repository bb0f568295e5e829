import HttpInterface.Expression.Formatted
import HttpInterface.Text.Normal

/-!
# `HttpInterface.Expression.Token`: the tokens of an expression

A text is cut into names, words, numbers, quoted texts and signs. Blanks part
tokens, a comment reaches to the end of its line, and a line may be continued
behind a backslash or while a bracket is open. Brackets are matched here; they
may be nested to a certain depth.

An expression takes one line. Lines that hold nothing but blanks and comments may
stand before it and after it, and the line itself starts without blanks.
-/

set_option autoImplicit false

namespace HttpInterface.Expression

/-- A token of an expression. -/
inductive Token where
  | name (name : String)
  /-- A word that is no name. -/
  | word (word : String)
  | number (value : Constant)
  | quoted (value : Constant)
  | formatted (pieces : FormatPieces)
  | sign (sign : String)
  deriving DecidableEq

/-- The words that are no names. -/
def reservedWords : List String :=
  ["False", "None", "True", "and", "as", "assert", "async", "await", "break", "class",
   "continue", "def", "del", "elif", "else", "except", "finally", "for", "from", "global",
   "if", "import", "in", "is", "lambda", "nonlocal", "not", "or", "pass", "raise", "return",
   "try", "while", "with", "yield"]

/-- The signs, longer ones before their parts. -/
def signs : List String :=
  ["**=", "//=", ">>=", "<<=", "...", "!=", "->", ":=", "==", "<=", ">=", "<<", ">>", "**",
   "//", "+=", "-=", "*=", "/=", "%=", "&=", "|=", "^=", "@=", "<>", "(", ")", "[", "]",
   "\x7b", "\x7d", ",", ":", ";", ".", "@", "=", "+", "-", "*", "/", "|", "&", "^", "~", "<",
   ">", "%"]

/-- Each opening bracket with the one that closes it. -/
def bracketPairs : List (Char × Char) :=
  [('(', ')'), ('[', ']'), ('\x7b', '\x7d')]

/-- How many brackets may be open at once. -/
def maxBrackets : Nat := 200

/-- A text in which every line ends in the same way. -/
def unifyLines : List Char → List Char
  | '\r' :: '\n' :: rest => '\n' :: unifyLines rest
  | '\r' :: rest => '\n' :: unifyLines rest
  | c :: rest => c :: unifyLines rest
  | [] => []

/-- A blank within a line. -/
def isLineBlank (c : Char) : Bool :=
  c == ' ' || c == '\t' || c == '\x0c'

/-- What a blank leads to from a column: a tab goes to the next eighth column, a
form feed back to the first. -/
def nextColumn (column : Nat) (c : Char) : Nat :=
  if c == ' ' then column + 1 else if c == '\t' then (column / 8 + 1) * 8 else 0

/-- Goes to the first line that holds a token, which has to start in the first
column. `column` is the column reached, `continued` the one at which the line was
continued, and `inComment` says that the rest of a line is to be passed over. -/
def firstLine? (column continued : Nat) (inComment : Bool) : List Char → Option (List Char)
  | [] => if inComment || (column = 0 && continued = 0) then some [] else none
  | '\\' :: '\n' :: rest =>
    if inComment then firstLine? 0 0 false rest
    else firstLine? column (if continued = 0 then column else continued) false rest
  | c :: rest =>
    if c = '\n' then firstLine? 0 0 false rest
    else if inComment then firstLine? column continued true rest
    else if isLineBlank c then firstLine? (nextColumn column c) continued false rest
    else if c = '#' then firstLine? column continued true rest
    else if column = 0 && continued = 0 then some (c :: rest)
    else none

/-- A character that belongs to the name or word that it follows, as far as can be
seen before the name is checked. -/
def mayBeInName (c : Char) : Bool :=
  0x80 ≤ c.toNat || c.isAlphanum || c == '_'

/-- The lower-case letters in front of a quote. -/
def quoteMark (cs : List Char) : String :=
  String.ofList (cs.map Char.toLower)

/-- Reads a quoted text whose mark stands in front of it. -/
def readQuoted? (mark cs : List Char) : Option (Token × List Char) := do
  let style ← quoteStyles.lookup (quoteMark mark)
  let (body, rest) ← readBody? cs
  if style.formatted then pure (.formatted (← formatPieces? style.raw body), rest)
  else pure (.quoted (← quotedConstant? style body), rest)

/-- The token of a name or a word. -/
def nameToken? (cs : List Char) : Option Token :=
  let word := String.ofList cs
  if reservedWords.contains word then some (.word word)
  else if Text.isName cs then some (.name (String.ofList (Text.normalName cs)))
  else none

/-- A quote follows. -/
def startsQuote (cs : List Char) : Bool :=
  cs.head? == some '\'' || cs.head? == some '"'

/-- A number follows. -/
def startsNumber : List Char → Bool
  | '.' :: c :: _ => c.isDigit
  | c :: _ => c.isDigit
  | [] => false

/-- Reads a token that starts here. -/
def readToken? (cs : List Char) : Option (Token × List Char) :=
  let run := cs.takeWhile mayBeInName
  let behind := cs.dropWhile mayBeInName
  if startsNumber cs then (readNumber? cs).map fun (value, rest) => (.number value, rest)
  else if startsQuote behind && (quoteStyles.lookup (quoteMark run)).isSome then
    readQuoted? run behind
  else if run.isEmpty then
    (signs.find? fun sign => sign.toList.isPrefixOf cs).map fun sign =>
      (.sign sign, cs.drop sign.length)
  else (nameToken? run).map fun token => (token, behind)

/-- The brackets that are open after a token, the last one first. A bracket that
closes has to match, and there may not be too many open. -/
def openAfter? (opened : List Char) : Token → Option (List Char)
  | .sign sign =>
    match sign.toList with
    | [c] =>
      if (bracketPairs.lookup c).isSome then
        if maxBrackets ≤ opened.length then none else some (c :: opened)
      else if bracketPairs.any fun pair => pair.2 = c then
        match opened with
        | last :: outer => if bracketPairs.lookup last = some c then some outer else none
        | [] => none
      else some opened
    | _ => some opened
  | _ => some opened

/-- The tokens of the rest of a line. -/
def tokensFrom (opened : List Char) (cs : List Char) : Option (List Token) :=
  match cs with
  | [] => if opened.isEmpty then some [] else none
  | '\\' :: rest =>
    match rest with
    | '\n' :: c :: more => tokensFrom opened (c :: more)
    | _ => none
  | c :: rest =>
    if isLineBlank c then tokensFrom opened rest
    else if c = '\n' then
      if !opened.isEmpty then tokensFrom opened rest
      else if firstLine? 0 0 false rest = some [] then some []
      else none
    else if c = '#' then
      -- The comment is passed over character by character, so that its end counts.
      match rest with
      | [] => if opened.isEmpty then some [] else none
      | '\n' :: more => tokensFrom opened ('\n' :: more)
      | _ :: more => tokensFrom opened ('#' :: more)
    else
      match readToken? (c :: rest) with
      | some (token, behind) =>
        match openAfter? opened token with
        | some opened =>
          if _h : behind.length ≤ rest.length then
            (tokensFrom opened behind).map (token :: ·)
          else none
        | none => none
      | none => none
termination_by cs.length
decreasing_by
  all_goals
    simp only [List.length_cons]
    omega

/-- The tokens of a text. -/
def tokens? (text : String) : Option (List Token) := do
  tokensFrom [] (← firstLine? 0 0 false (unifyLines text.toList))

end HttpInterface.Expression
