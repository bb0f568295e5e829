import HttpInterface.Expression.Formatted
import HttpInterface.Format.Number
import HttpInterface.Object.Arithmetic
import HttpInterface.Object.Member

/-!
# `HttpInterface.Object.Formatting`: values put into texts

A value is laid out as its class says: texts and numbers know layouts, all other values
only the empty one. A template is a text with fields between braces. A field names a
value, by its number or its name, may ask for members and items of it, may turn it into a
text first, and may state a layout, in which fields may stand as well.
-/

set_option autoImplicit false

namespace HttpInterface

namespace Evaluation

/-- An object laid out. -/
def layObject (layout : String) (o : Object) : Evaluation String := do
  match o.text?, o.number? with
  | some s, _ => ofLayoutResult (Format.layText layout s)
  | none, some n =>
    if layout.isEmpty then plainText o
    else ofLayoutResult (Format.layNumber (← kindName o) layout n)
  | none, none =>
    if layout.isEmpty then plainText o
    else ofLayoutResult (.error (.unsupported (← kindName o)))

/-- An object turned into a text. -/
def inForm (form : TextForm) (o : Object) : Evaluation String := do
  match form with
  | .plain => plainText o
  | .shown => shownText o
  | .ascii => do pure (Text.asciiText (← shownText o))

end Evaluation

namespace TextTemplate

/-! ### Fields -/

/-- A step from a value to a part of it. -/
inductive FieldStep where
  | member (name : String)
  | item (key : String)
  deriving DecidableEq, Repr

/-- A piece of a template. -/
inductive Piece where
  | text (cs : List Char)
  /-- A field: its name, the letter of the form that it is turned into, and its layout. -/
  | field (name : List Char) (form : Option Char) (layout : List Char)
  deriving DecidableEq, Repr

/-- An error of a template. -/
def malformed {α : Type} (message : String) : Except TypeExprError α :=
  .error (.raised "ValueError" message)

/-- The name of a field, and what is behind it; the last character read tells what comes
next. Between brackets any character may stand. -/
def takeFieldName (inBrackets : Bool) (taken : List Char) :
    List Char → Except TypeExprError (List Char × Option Char × List Char)
  | [] => .ok (taken.reverse, none, [])
  | c :: rest =>
    if inBrackets then takeFieldName (c != ']') (c :: taken) rest
    else if c = '\x7b' then malformed "unexpected '\x7b' in field name"
    else if c = '\x7d' || c = ':' || c = '!' then .ok (taken.reverse, some c, rest)
    else takeFieldName (c == '[') (c :: taken) rest

/-- The layout of a field up to the brace that closes it; `opened` counts those that are
open. -/
def takeFieldLayout (opened : Nat) (taken : List Char) :
    List Char → Except TypeExprError (List Char × List Char)
  | [] => malformed "unmatched '\x7b' in format spec"
  | c :: rest =>
    if c = '\x7d' && opened = 0 then .ok (taken.reverse, rest)
    else
      let opened := if c = '\x7b' then opened + 1 else if c = '\x7d' then opened - 1 else opened
      takeFieldLayout opened (c :: taken) rest

/-- A field, and what is behind it. -/
def takeField (cs : List Char) : Except TypeExprError (Piece × List Char) := do
  let (name, last, rest) ← takeFieldName false [] cs
  match last with
  | some '\x7d' => pure (.field name none [], rest)
  | some ':' => do
    let (layout, rest) ← takeFieldLayout 0 [] rest
    pure (.field name none layout, rest)
  | some _ =>
    match rest with
    | [] => malformed "end of string while looking for conversion specifier"
    | form :: '\x7d' :: rest => pure (.field name (some form) [], rest)
    | form :: ':' :: rest => do
      let (layout, rest) ← takeFieldLayout 0 [] rest
      pure (.field name (some form) layout, rest)
    | [_] => malformed "unmatched '\x7b' in format spec"
    | _ => malformed "expected ':' after conversion specifier"
  | none => malformed "expected '\x7d' before end of string"

/-- The next piece of a template, and what is behind it. -/
def takePiece (cs : List Char) : Except TypeExprError (List Piece × List Char) := do
  let isBrace (c : Char) : Bool := c == '\x7b' || c == '\x7d'
  let front := cs.takeWhile fun c => !isBrace c
  match cs.dropWhile fun c => !isBrace c with
  | [] => pure ([.text front], [])
  | c :: d :: rest =>
    if c = d then pure ([.text (front ++ [c])], rest)
    else if c = '\x7d' then malformed "Single '\x7d' encountered in format string"
    else do
      let (field, rest) ← takeField (d :: rest)
      pure ([.text front, field], rest)
  | [c] => malformed s!"Single '{c}' encountered in format string"

/-- A whole number in decimal digits; none if there are other characters. -/
def fieldNumber? (cs : List Char) : Except TypeExprError (Option Nat) :=
  if cs.isEmpty || !cs.all Text.isDecimalDigit then .ok none
  else
    let n := cs.foldl (fun n c => 10 * n + (Text.decimalDigit? c).getD 0) 0
    if Format.maxNumber < n then malformed "Too many decimal digits in format string"
    else .ok (some n)

/-- The step that stands first in some characters, and those behind it. -/
def takeStep (cs : List Char) : Except TypeExprError (FieldStep × List Char) := do
  let named (name : List Char) (step : String → FieldStep) (rest : List Char) :
      Except TypeExprError (FieldStep × List Char) :=
    if name.isEmpty then malformed "Empty attribute in format string"
    else .ok (step (String.ofList name), rest)
  match cs with
  | '.' :: rest =>
    let isPart (c : Char) : Bool := c != '.' && c != '['
    named (rest.takeWhile isPart) .member (rest.dropWhile isPart)
  | '[' :: rest =>
    match rest.dropWhile (· != ']') with
    | [] => malformed "Missing ']' in format string"
    | _ :: behind => named (rest.takeWhile (· != ']')) .item behind
  | _ => malformed "Only '.' or '[' may follow ']' in format field specifier"

/-! ### Values -/

/-- How the fields without a name are numbered. -/
inductive Numbering where
  | undecided
  /-- One after the other. -/
  | automatic (next : Nat)
  /-- As their numbers say. -/
  | manual
  deriving DecidableEq, Repr

/-- The values of a template. -/
structure Values where
  /-- The values by position; a template that is filled by a mapping has none. -/
  positional : Option (List Object)
  /-- The value of a name. -/
  named : String → Evaluation Object

/-- The number of a field by itself, and the numbering behind it. -/
def numberField (isEmpty : Bool) (number : Option Nat) (numbering : Numbering) :
    Except TypeExprError (Option Nat × Numbering) :=
  if !isEmpty && number.isNone then .ok (none, numbering)
  else
    match numbering, isEmpty with
    | .undecided, true => .ok (some 0, .automatic 1)
    | .automatic next, true => .ok (some next, .automatic (next + 1))
    | .undecided, false | .manual, false => .ok (number, .manual)
    | .manual, true =>
      malformed "cannot switch from manual field specification to automatic field numbering"
    | .automatic _, false =>
      malformed "cannot switch from automatic field numbering to manual field specification"

open Evaluation in
/-- The value that a field starts from. -/
def firstValue (values : Values) (name : List Char) (number : Option Nat) : Evaluation Object := do
  match number with
  | none => values.named (String.ofList name)
  | some i =>
    match values.positional with
    | none => valueError "Format string contains positional fields"
    | some items =>
      match items[i]? with
      | some o => pure o
      | none =>
        raise "IndexError" s!"Replacement index {i} out of range for positional args tuple"

open Evaluation in
/-- The value behind some steps; `fuel` bounds how many these are. -/
def follow (fuel : Nat) (o : Object) (cs : List Char) : Evaluation Object := do
  match fuel, cs with
  | 0, _ | _, [] => pure o
  | fuel + 1, cs =>
    let (step, rest) ← ofTypeResult (takeStep cs)
    let next ← match step with
      | .member name => memberOf o name
      | .item key => do
        match ← ofTypeResult (fieldNumber? key.toList) with
        | some i => subscript o (.int i)
        | none => subscript o (.text key)
    follow fuel next rest

/-- The letters of the forms that a value is turned into. -/
def formLetters : List (Char × TextForm) := [('s', .plain), ('r', .shown), ('a', .ascii)]

open Evaluation in
/-- A value turned into the form of a letter. -/
def convert (letter : Char) (o : Object) : Evaluation Object := do
  match formLetters.lookup letter with
  | some form => do pure (.text (← inForm form o))
  | none =>
    let isPlain := 32 < letter.toNat && letter.toNat < 127
    let shown :=
      if isPlain then String.singleton letter
      else "\\x" ++ String.ofList (Nat.toDigits 16 letter.toNat)
    valueError s!"Unknown conversion specifier {shown}"

open Evaluation in
/-- A template filled with values. `depth` says how deep fields may stand in layouts, and
`fuel` bounds the characters. -/
def fillFrom (values : Values) (depth fuel : Nat) (numbering : Numbering) (cs : List Char) :
    Evaluation (List Char × Numbering) := do
  match fuel, depth, cs with
  | 0, _, _ => pure ([], numbering)
  | _, 0, _ => valueError "Max string recursion exceeded"
  | _, _, [] => pure ([], numbering)
  | fuel + 1, depth + 1, cs =>
    let (pieces, rest) ← ofTypeResult (takePiece cs)
    let (shown, numbering) ← match pieces with
      | [.text front, .field name form layout] => do
        let isPart (c : Char) : Bool := c != '.' && c != '['
        let first := name.takeWhile isPart
        let number ← ofTypeResult (fieldNumber? first)
        let (number, numbering) ← ofTypeResult (numberField first.isEmpty number numbering)
        let o ← firstValue values first number
        let o ← follow (name.length + 1) o (name.dropWhile isPart)
        let o ← match form with
          | some letter => convert letter o
          | none => pure o
        let (layout, numbering) ←
          if layout.contains '\x7b' then fillFrom values depth fuel numbering layout
          else pure (layout, numbering)
        pure (front ++ (← layObject (String.ofList layout) o).toList, numbering)
      | [.text front] => pure (front, numbering)
      | _ => pure ([], numbering)
    let (others, numbering) ← fillFrom values (depth + 1) fuel numbering rest
    pure (shown ++ others, numbering)

/-- A template filled with values. -/
def fill (values : Values) (s : String) : Evaluation String := do
  let (cs, _) ← fillFrom values 2 (s.length + 1) .undecided s.toList
  pure (String.ofList cs)

end TextTemplate

open Evaluation in
/-- A template filled with the arguments of a call. -/
def TextTemplate.fillWith (args : ArgumentList Object) (s : String) : Evaluation String :=
  TextTemplate.fill
    { positional := some args.values
      named := fun name =>
        match args.named.lookup name with
        | some o => pure o
        | none => throw (.missingKey (Text.quoted name)) } s

open Evaluation in
/-- A template filled with the values of a mapping. -/
def TextTemplate.fillFromMapping (mapping : Object) (s : String) : Evaluation String :=
  TextTemplate.fill { positional := none, named := fun name => subscript mapping (.text name) } s

end HttpInterface
