import HttpInterface.Json
import HttpInterface.OrderedMap

/-!
# `HttpInterface.Json.Read`: reading JSON documents

A document is read from the left, and every reader gives what it read together with the
characters behind it. Members keep their order; of several with one name the last counts,
in the place of the first. A number that is not whole is kept as its text, and so are the
words for numbers that are not finite.

Characters above U+FFFF may be written as two units. A unit that stands alone where it
should not is replaced.
-/

set_option autoImplicit false

namespace HttpInterface.Json

/-! ### Texts -/

/-- The value of four hexadecimal digits. -/
def readUnit? : List Char → Option (Nat × List Char)
  | a :: b :: c :: d :: rest => do
    let digits ← [a, b, c, d].mapM Text.hexDigit?
    pure (digits.foldl (fun n x => 16 * n + x) 0, rest)
  | _ => none

/-- What stands behind a backslash, and what it stands for. -/
def escapes : List (Char × Char) :=
  [('"', '"'), ('\\', '\\'), ('/', '/'), ('b', '\x08'), ('f', '\x0c'), ('n', '\n'),
   ('r', '\r'), ('t', '\t')]

/-- What stands for a unit that belongs to another one but has none. -/
def replacement : Char := '\ufffd'

/-- The character of two units that belong together. -/
def pairChar (high low : Nat) : Char :=
  Char.ofNat (0x10000 + (high - 0xD800) * 0x400 + (low - 0xDC00))

/-- The character that starts with a unit. -/
def readUnits? (unit : Nat) (rest : List Char) : Option (Char × List Char) :=
  if unit < 0xD800 || 0xE000 ≤ unit then some (Char.ofNat unit, rest)
  else
    match rest with
    | '\\' :: 'u' :: more => do
      let (low, behind) ← readUnit? more
      if unit < 0xDC00 && 0xDC00 ≤ low && low < 0xE000 then pure (pairChar unit low, behind)
      else pure (replacement, rest)
    | _ => some (replacement, rest)

/-- A text behind its first quote; `fuel` bounds its length, and `done` holds what is read,
last character first. -/
def readText? (fuel : Nat) (done : List Char) (cs : List Char) :
    Option (String × List Char) :=
  match fuel, cs with
  | 0, _ | _, [] => none
  | _, '"' :: rest => some (String.ofList done.reverse, rest)
  | fuel + 1, '\\' :: 'u' :: rest => do
    let (unit, rest) ← readUnit? rest
    let (c, rest) ← readUnits? unit rest
    readText? fuel (c :: done) rest
  | fuel + 1, '\\' :: c :: rest => do readText? fuel ((← escapes.lookup c) :: done) rest
  | fuel + 1, c :: rest => readText? fuel (c :: done) rest

/-! ### Documents -/

/-- Drops the blanks in front. -/
def skipBlanks (cs : List Char) : List Char :=
  cs.dropWhile fun c => c == ' ' || c == '\t' || c == '\n' || c == '\r'

/-- A character of a word or a number. -/
def isTokenChar (c : Char) : Bool :=
  c.isAlphanum || c == '+' || c == '-' || c == '.'

/-- The document of a word or a number. -/
def ofToken? (token : String) : Option Json :=
  if token = "null" then some .null
  else if token = "true" then some (.bool true)
  else if token = "false" then some (.bool false)
  else if ["NaN", "Infinity", "-Infinity"].contains token then some (.real token)
  else if token.any fun c => c == '.' || c == 'e' || c == 'E' then some (.real token)
  else token.toInt?.map .int

mutual

/-- A document; `fuel` bounds the steps of reading it. -/
def readDocument? (fuel : Nat) (cs : List Char) : Option (Json × List Char) :=
  match fuel, skipBlanks cs with
  | 0, _ => none
  | fuel + 1, '"' :: rest => (readText? fuel [] rest).map fun (s, rest) => (.text s, rest)
  | fuel + 1, '[' :: rest =>
    match skipBlanks rest with
    | ']' :: rest => some (.array [], rest)
    | rest => readItems? fuel [] rest
  | fuel + 1, '\x7b' :: rest =>
    match skipBlanks rest with
    | '\x7d' :: rest => some (.object [], rest)
    | rest => readMembers? fuel [] rest
  | _, cs =>
    (ofToken? (String.ofList (cs.takeWhile isTokenChar))).map fun d =>
      (d, cs.dropWhile isTokenChar)

/-- The elements of an array behind those in `done`, which are in reverse. -/
def readItems? (fuel : Nat) (done : List Json) (cs : List Char) : Option (Json × List Char) :=
  match fuel with
  | 0 => none
  | fuel + 1 => do
    let (d, rest) ← readDocument? fuel cs
    match skipBlanks rest with
    | ',' :: rest => readItems? fuel (d :: done) rest
    | ']' :: rest => pure (.array (d :: done).reverse, rest)
    | _ => none

/-- The members of an object behind those in `done`, which are in reverse. -/
def readMembers? (fuel : Nat) (done : List (String × Json)) (cs : List Char) :
    Option (Json × List Char) :=
  match fuel, skipBlanks cs with
  | fuel + 1, '"' :: rest => do
    let (name, rest) ← readText? fuel [] rest
    match skipBlanks rest with
    | ':' :: rest =>
      let (d, rest) ← readDocument? fuel rest
      let done := (name, d) :: done
      match skipBlanks rest with
      | ',' :: rest => readMembers? fuel done rest
      | '\x7d' :: rest => pure (.object (OrderedMap.ofList done.reverse).entries, rest)
      | _ => none
    | _ => none
  | _, _ => none

end

/-- The document that a text is. -/
def read? (s : String) : Option Json := do
  let cs := s.toList
  let (d, rest) ← readDocument? (2 * cs.length + 2) cs
  if (skipBlanks rest).isEmpty then some d else none

end HttpInterface.Json
