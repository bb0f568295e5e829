import HttpInterface.Text.Digit

/-!
# `HttpInterface.Json`: writing JSON documents

The members of an object keep their order. A document is written on one line,
with blanks between its parts or without any, or indented with one element on a
line. One spelling keeps every character from U+0020 on, the other escapes all
that is not printable ASCII, a character above U+FFFF as two surrogates.
-/

set_option autoImplicit false

namespace HttpInterface

/-- A JSON document. -/
inductive Json where
  | null
  | bool (b : Bool)
  | int (i : Int)
  /-- A number with a point or an exponent, as it is written. -/
  | real (written : String)
  | text (s : String)
  | array (items : List Json)
  | object (members : List (String × Json))

namespace Json

instance : Inhabited Json := ⟨.null⟩

/-- The document is nothing. -/
def isNull : Json → Bool
  | null => true
  | _ => false

/-- The member of a name, if the document is an object that has it. -/
def member? (d : Json) (name : String) : Option Json :=
  match d with
  | object members => members.lookup name
  | _ => none

/-- Which characters of a text are escaped. -/
inductive Spelling where
  /-- Control characters, the quote and the backslash. -/
  | plain
  /-- Those, and everything that is not printable ASCII. -/
  | ascii
  deriving DecidableEq, Repr

/-- The escape of a code unit. -/
def unitEscape (unit : Nat) : List Char :=
  '\\' :: 'u' :: Text.lowerHex 4 unit

/-- The escape of a character: one unit, or two surrogates. -/
def codeEscape (c : Char) : List Char :=
  if c.toNat < 0x10000 then unitEscape c.toNat
  else
    let rest := c.toNat - 0x10000
    unitEscape (0xD800 + rest / 1024) ++ unitEscape (0xDC00 + rest % 1024)

/-- One character of a text. -/
def textChar (spelling : Spelling) (c : Char) : List Char :=
  if c = '"' ∨ c = '\\' then ['\\', c]
  else if c = '\n' then ['\\', 'n']
  else if c = '\r' then ['\\', 'r']
  else if c = '\t' then ['\\', 't']
  else if c.toNat = 0x08 then ['\\', 'b']
  else if c.toNat = 0x0C then ['\\', 'f']
  else if c.toNat < 0x20 then codeEscape c
  else if spelling = .ascii ∧ 0x7F ≤ c.toNat then codeEscape c
  else [c]

/-- A text between quotes. -/
def quotedText (spelling : Spelling) (s : String) : String :=
  String.ofList ('"' :: s.toList.flatMap (textChar spelling) ++ ['"'])

mutual

/-- A document on one line. -/
def compact (spelling : Spelling) : Json → String
  | null => "null"
  | bool b => if b then "true" else "false"
  | int i => toString i
  | real written => written
  | text s => quotedText spelling s
  | array items => "[" ++ ", ".intercalate (compactItems spelling items) ++ "]"
  | object members =>
    "\x7b" ++ ", ".intercalate (compactMembers spelling members) ++ "\x7d"

/-- Elements on one line each to itself. -/
def compactItems (spelling : Spelling) : List Json → List String
  | [] => []
  | item :: rest => compact spelling item :: compactItems spelling rest

/-- Members on one line each to itself. -/
def compactMembers (spelling : Spelling) : List (String × Json) → List String
  | [] => []
  | (key, value) :: rest =>
    (quotedText spelling key ++ ": " ++ compact spelling value) ::
      compactMembers spelling rest

end

/-- Two blanks for every level of nesting. -/
def indentation (depth : Nat) : String :=
  String.ofList (List.replicate (2 * depth) ' ')

/-- Lines between an opening and a closing sign, all on one line if there are
none. -/
def block (opening closing : String) (depth : Nat) (lines : List String) : String :=
  if lines.isEmpty then opening ++ closing
  else
    let inner := indentation (depth + 1)
    opening ++ "\n" ++ inner ++ (",\n" ++ inner).intercalate lines ++ "\n" ++
      indentation depth ++ closing

mutual

/-- A document with one element on a line, `depth` levels inside another one. -/
def indented (spelling : Spelling) (depth : Nat) : Json → String
  | null => "null"
  | bool b => if b then "true" else "false"
  | int i => toString i
  | real written => written
  | text s => quotedText spelling s
  | array items => block "[" "]" depth (indentedItems spelling (depth + 1) items)
  | object members =>
    block "\x7b" "\x7d" depth (indentedMembers spelling (depth + 1) members)

/-- Elements with one element on a line. -/
def indentedItems (spelling : Spelling) (depth : Nat) : List Json → List String
  | [] => []
  | item :: rest => indented spelling depth item :: indentedItems spelling depth rest

/-- Members with one element on a line. -/
def indentedMembers (spelling : Spelling) (depth : Nat) :
    List (String × Json) → List String
  | [] => []
  | (key, value) :: rest =>
    (quotedText spelling key ++ ": " ++ indented spelling depth value) ::
      indentedMembers spelling depth rest

end

/-! ### Documents without any blanks -/

mutual

/-- A document without blanks. -/
def dense : Json → String
  | null => "null"
  | bool b => if b then "true" else "false"
  | int i => toString i
  | real written => written
  | text s => quotedText .plain s
  | array items => "[" ++ ",".intercalate (denseItems items) ++ "]"
  | object members => "\x7b" ++ ",".intercalate (denseMembers members) ++ "\x7d"

/-- Elements without blanks. -/
def denseItems : List Json → List String
  | [] => []
  | item :: rest => dense item :: denseItems rest

/-- Members without blanks. -/
def denseMembers : List (String × Json) → List String
  | [] => []
  | (key, value) :: rest => (quotedText .plain key ++ ":" ++ dense value) :: denseMembers rest

end

end Json

end HttpInterface
