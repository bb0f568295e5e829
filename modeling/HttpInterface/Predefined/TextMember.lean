import HttpInterface.Charset.Recovery
import HttpInterface.Format.Layout
import HttpInterface.Object.Calling
import HttpInterface.Object.Demand
import HttpInterface.Text.Letter
import HttpInterface.Text.LowerCase
import HttpInterface.Text.NameChar

/-!
# `HttpInterface.Predefined.TextMember`: what the members of texts do

Texts are searched, cut, joined, filled up and changed in their case, and they are told
apart by the sorts of their characters.
-/

set_option autoImplicit false

namespace HttpInterface.Predefined

open Evaluation

/-- The members of texts that take no arguments and make another text. -/
def textChanges : List (String × (String → String)) :=
  [("capitalize", Text.capitalized), ("casefold", Text.folded), ("lower", Text.lower),
   ("swapcase", Text.swapped), ("title", Text.title), ("upper", Text.upper)]

/-- The text is not empty, and all its characters pass a test. -/
def allChars (test : Char → Bool) (s : String) : Bool := !s.isEmpty && s.toList.all test

/-- The members of texts that take no arguments and make a truth value. -/
def textTests : List (String × (String → Bool)) :=
  [("isalnum", allChars Text.isLetterOrNumeral), ("isalpha", allChars Text.isLetter),
   ("isascii", fun s => s.toList.all fun c => c.toNat < 0x80),
   ("isdecimal", allChars Text.isDecimalDigit), ("isdigit", allChars Text.isDigit),
   ("isidentifier", fun s => Text.isName s.toList), ("islower", Text.isLower),
   ("isnumeric", allChars Text.isNumeral),
   ("isprintable", fun s => s.toList.all Text.isPrintable),
   ("isspace", allChars Text.isBlank), ("istitle", Text.isTitle), ("isupper", Text.isUpper)]

/-- How a member of texts takes its arguments. -/
def textCalling : String → Calling
  | "encode" => .named 0 2 ["encoding", "errors"]
  | "replace" => .positional 2 3
  | "split" | "rsplit" => .named 0 2 ["sep", "maxsplit"]
  | "center" | "ljust" | "rjust" => .positional 1 2
  | "count" | "find" | "index" | "rfind" | "rindex" | "startswith" | "endswith" => .counted 1 3
  | "expandtabs" => .named 0 1 ["tabsize"]
  | "strip" | "lstrip" | "rstrip" => .positional 0 1
  | "splitlines" => .named 0 1 ["keepends"]
  | "join" | "partition" | "rpartition" | "removeprefix" | "removesuffix" | "translate"
  | "zfill" | "format_map" | "__format__" => .one
  | "maketrans" => .positional 1 3
  | "format" => .any
  | _ => .nothing

/-- A text from characters. -/
def ofChars (cs : List Char) : Object := .text (String.ofList cs)

/-- The pieces of a text as a list. -/
def pieceList (pieces : List (List Char)) : Evaluation Object := makeList (pieces.map ofChars)

/-- A text in its pieces between a separator, or between blanks. -/
def splitText (fromEnd : Bool) (s : String) (args : List (Option Object)) : Evaluation Object := do
  let limit := limitOf (← countOr (-1) (argument? args 1))
  let separator := argument args 0
  if separator.isNone then
    let words := if fromEnd then Sequence.wordsFromEnd else Sequence.words
    pieceList (words Text.isBlank limit s.toList)
  else
    let part ← demandText "must be str or None" separator
    if part.isEmpty then valueError "empty separator"
    let split := if fromEnd then Sequence.splitByLast else Sequence.splitBy
    pieceList (split part.toList limit s.toList)

/-- What stands before a part of a text, the part, and what stands behind it. -/
def partitionText (fromEnd : Bool) (s : String) (separator : Object) : Evaluation Object := do
  let part ← demandText "must be str" separator
  if part.isEmpty then valueError "empty separator"
  let cut := if fromEnd then Sequence.cutLast? else Sequence.cut?
  pure (.tuple (match cut part.toList s.toList with
    | some (front, back) => [ofChars front, .text part, ofChars back]
    | none => if fromEnd then [.text "", .text "", .text s] else [.text s, .text "", .text ""]))

/-- A text filled up to a width. -/
def justifyText (alignment : Sequence.Alignment) (s : String) (args : List (Option Object)) :
    Evaluation Object := do
  let width ← demandCount (argument args 0)
  let filler ← match argument? args 1 with
    | none => pure ' '
    | some o =>
      let t ← demandText "The fill character must be a unicode character" o
      match t.toList with
      | [c] => pure c
      | _ => typeError "The fill character must be exactly one character long"
  if maxElements < width.toNat then raise "MemoryError" ""
  pure (ofChars (Sequence.justify alignment filler width.toNat s.toList))

/-- The place of a part of a text, or minus one. -/
def findText (name : String) (s : String) (args : List (Option Object)) : Evaluation Object := do
  let start ← boundAt args 1
  let stop ← boundAt args 2
  let part ← demandText "must be str" (argument args 0)
  let found := Sequence.find? (name.startsWith "r") part.toList s.toList start stop
  match found with
  | some i => pure (.int i)
  | none =>
    if name.endsWith "index" then valueError "substring not found" else pure (.int (-1))

/-- A text starts, or ends, with one of some parts. -/
def touchesText (name s : String) (args : List (Option Object)) : Evaluation Object := do
  let start ← boundAt args 1
  let stop ← boundAt args 2
  let touches (part : String) : Bool :=
    Sequence.touches (name == "endswith") part.toList s.toList start stop
  match argument args 0 with
  | .tuple parts =>
    .bool <$> parts.anyM fun o => do
      match o.text? with
      | some part => pure (touches part)
      | none => typeError s!"tuple for {name} must only contain str, not {← kindName o}"
  | o => do
    pure (.bool (touches (← demandText s!"{name} first arg must be str or a tuple of str" o)))

/-- A text without the characters at its ends that are among some. -/
def stripText (name s : String) (given : Object) : Evaluation Object := do
  let drops ← if given.isNone then pure Text.isBlank else do
    match given.text? with
    | some t => pure fun c => t.toList.contains c
    | none => typeError s!"{name} arg must be None or str"
  pure (ofChars (Sequence.strip (name != "rstrip") (name != "lstrip") drops s.toList))

/-- A character ends a line. -/
def endsLine (c : Char) : Bool :=
  ['\n', '\r', '\x0b', '\x0c', '\x1c', '\x1d', '\x1e', '\x85', '\u2028', '\u2029'].contains c

/-- Two characters end a line together. -/
def endLineTogether (c d : Char) : Bool := c == '\r' && d == '\n'

/-- A text filled with zeros up to a width, behind its sign. -/
def fillZeros (width : Nat) (cs : List Char) : List Char :=
  let zeros := List.replicate (width - cs.length) '0'
  match cs with
  | '+' :: rest => '+' :: zeros ++ rest
  | '-' :: rest => '-' :: zeros ++ rest
  | cs => zeros ++ cs

/-- Texts behind each other with another one between them. -/
def joinTexts (separator : String) (items : List Object) : Evaluation Object := do
  let texts ← items.zipIdx.mapM fun (o, i) => do
    match o.text? with
    | some s => pure s
    | none => typeError s!"sequence item {i}: expected str instance, {← kindName o} found"
  pure (.text (separator.intercalate texts))

/-- The characters that a table puts in the place of one. -/
def translateChar (table : Object) (c : Char) : Evaluation (List Char) := do
  match ← attempt? "KeyError" (attempt? "IndexError" (subscript table (.int c.toNat))) with
  | none | some none => pure [c]
  | some (some o) =>
    match o.isNone, o.text?, o.int? with
    | true, _, _ => pure []
    | _, some s, _ => pure s.toList
    | _, none, some i =>
      if 0 ≤ i && i < 0x110000 then pure [Char.ofNat i.toNat]
      else valueError "character mapping must be in range(0x110000)"
    | _, none, none => typeError "character mapping must return integer, None or str"

/-- A table that puts characters in the place of others. -/
def translationTable (args : List (Option Object)) : Evaluation Object := do
  let key (c : Char) : Object := .int c.toNat
  match argument? args 1 with
  | none =>
    match ← entries? (argument args 0) with
    | none => typeError "if you give only one argument to maketrans it must be a dict"
    | some entries =>
      makeDict (← entries.mapM fun e => do
        match e.1.text?, e.1.int? with
        | some s, _ =>
          match s.toList with
          | [c] => pure (key c, e.2)
          | _ => valueError "string keys in translate table must be of length 1"
        | none, some _ => pure e
        | none, none => typeError "keys in translate table must be strings or integers")
  | some second =>
    let demanded := "maketrans() argument "
    let tos ← demandTextAt (demanded ++ "2") second
    let froms ←
      match (argument args 0).text? with
      | some s => pure s
      | none => typeError "first maketrans argument must be a string if there is a second argument"
    if froms.length ≠ tos.length then
      valueError "the first two maketrans arguments must have equal length"
    let removed ← match argument? args 2 with
      | some o => demandTextAt (demanded ++ "3") o
      | none => pure ""
    makeDict ((froms.toList.zipWith (fun c d => (key c, key d)) tos.toList) ++
      removed.toList.map fun c => (key c, .none))

/-- The class of a coding error. -/
def codingErrorClass : CodingError → String
  | .unencodable _ _ => "UnicodeEncodeError"
  | .nulInName => "ValueError"
  | _ => "LookupError"

/-- The result of a coding. -/
def ofCodingResult {α : Type} (r : Except CodingError α) : Evaluation α :=
  match r with
  | .ok a => pure a
  | .error e => raise (codingErrorClass e) e.message

/-- A failure in the course of coding. That of a charset that is not known at once says so. -/
def codingFailure {α : Type} (activity charset className message : String) : Evaluation α :=
  raise className
    (if Charset.isPlainName charset then message
    else s!"{activity} with '{charset}' codec failed ({className}: {message})")

/-- The way to recover that is asked for by a name. -/
def recoveryNamed (activity charset name : String) : Evaluation Charset.Recovery :=
  match Charset.Recovery.names.lookup name with
  | some r => pure r
  | none =>
    codingFailure activity charset "LookupError" s!"unknown error handler name '{name}'"

/-- The bytes of a text in a charset. Something may stand for the characters without bytes. -/
def encodeText (s : String) (args : List (Option Object)) : Evaluation Object := do
  let named (i : Nat) (parameter usual : String) : Evaluation String :=
    match argument? args i with
    | some o => demandTextAt s!"encode() argument '{parameter}'" o
    | none => pure usual
  let name ← named 0 "encoding" "utf-8"
  let errors ← named 1 "errors" "strict"
  let charset ← ofCodingResult (Charset.lookUp name)
  let encodable (c : Char) : Bool := (charset.encodeAs name [c]).toOption.isSome
  let cs ←
    if charset != .rot13 && !s.toList.all encodable then do
      let r ← recoveryNamed "encoding" name errors
      pure (s.toList.flatMap fun c => if encodable c then [c] else r.forChar c)
    else pure s.toList
  pure (.bytes (← ofCodingResult (charset.encodeAs name cs)))

/-- What a member of texts makes of a text and its arguments. -/
def callText (engine : Engine) (s name : String) (args : List (Option Object)) :
    Evaluation Object := do
  if let some change := textChanges.lookup name then return .text (change s)
  if let some test := textTests.lookup name then return .bool (test s)
  let first := argument args 0
  match name with
  | "encode" => encodeText s args
  | "replace" =>
    let old ← demandTextAt "replace() argument 1" first
    let new ← demandTextAt "replace() argument 2" (argument args 1)
    let limit := limitOf (← countOr (-1) (argument? args 2))
    pure (ofChars (Sequence.replaceBy old.toList new.toList limit s.toList))
  | "split" => splitText false s args
  | "rsplit" => splitText true s args
  | "join" =>
    match ← elements? engine first with
    | some items => joinTexts s items
    | none => typeError "can only join an iterable"
  | "center" => justifyText .center s args
  | "ljust" => justifyText .left s args
  | "rjust" => justifyText .right s args
  | "count" =>
    let start ← boundAt args 1
    let stop ← boundAt args 2
    let part ← demandText "must be str" first
    pure (.int (Sequence.count part.toList s.toList start stop))
  | "find" | "index" | "rfind" | "rindex" => findText name s args
  | "startswith" | "endswith" => touchesText name s args
  | "expandtabs" =>
    let size ← countOr 8 (argument? args 0)
    pure (ofChars (Sequence.expandTabs '\t' ' ' (fun c => c == '\n' || c == '\r') size.toNat 0
      s.toList))
  | "partition" => partitionText false s first
  | "rpartition" => partitionText true s first
  | "strip" | "lstrip" | "rstrip" => stripText name s first
  | "splitlines" =>
    let keepEnds ← flagAt args 0
    pieceList (Sequence.linesFrom endsLine endLineTogether keepEnds [] s.toList)
  | "translate" => do pure (ofChars (← s.toList.mapM (translateChar first)).flatten)
  | "removeprefix" =>
    let part ← demandTextAt "removeprefix() argument" first
    pure (.text (if s.startsWith part then (s.drop part.length).toString else s))
  | "removesuffix" =>
    let part ← demandTextAt "removesuffix() argument" first
    pure (.text (if s.endsWith part then (s.dropEnd part.length).toString else s))
  | "zfill" =>
    let width ← demandCount first
    if maxElements < width.toNat then raise "MemoryError" ""
    pure (ofChars (fillZeros width.toNat s.toList))
  | "maketrans" => translationTable args
  | "__format__" =>
    let layout ← demandTextAt "__format__() argument" first
    match Format.layText layout s with
    | .ok t => pure (.text t)
    | .error e => raise e.className e.message
  | "__getnewargs__" => pure (.tuple [.text s])
  | _ => throw (.noMember "str" name)

end HttpInterface.Predefined
