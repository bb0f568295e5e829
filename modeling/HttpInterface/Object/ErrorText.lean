import HttpInterface.Object
import HttpInterface.Predefined.Class
import HttpInterface.TypeExpr.Compare

/-!
# `HttpInterface.Object.ErrorText`: errors as values

An error keeps the arguments that it was made of. How it reads depends on its class: most
errors read as their arguments, and some classes take certain of these out: a file, a place
in a text, the bytes or the characters that could not be coded.

A class that is derived from one of these classes is the same in this; `base` is the
predefined class in question.
-/

set_option autoImplicit false

namespace HttpInterface

/-- A value as a reader sees it. -/
def TypeExpr.plainText : TypeExpr → String
  | .text s => s
  | .other thing => thing.plainText.getD thing.text
  | t => t.valueText

namespace ErrorText

/-- The class is one of the classes that are derived from another. -/
def isOf (ancestor base : String) : Bool := (Predefined.ancestors base).contains ancestor

/-- The arguments that an error of the operating system understands. -/
def isSystemCall {α : Type} (base : String) (args : List α) : Bool :=
  isOf "OSError" base && 2 ≤ args.length && args.length ≤ 5

/-- Where an argument about a file stands, and where one about a second file. -/
def filePlaces : List (String × Nat) := [("filename", 2), ("filename2", 4)]

/-- The value is none. -/
def isNone : TypeExpr → Bool
  | .none => true
  | _ => false

/-- The arguments that are shown: those about files are taken out. -/
def keptArgs {α : Type} (isNone : α → Bool) (base : String) (args : List α) : List α :=
  if isSystemCall base args && (args[2]?).any (fun a => !isNone a) then args.take 2 else args

/-- An error as it is shown: its class and its arguments. -/
def shown (className base : String) (args : List TypeExpr) : String :=
  let texts := (keptArgs isNone base args).map TypeExpr.valueText
  className ++ "(" ++ ", ".intercalate texts ++ ")"

/-- An error of the operating system. -/
def ofSystem (number reason : TypeExpr) (others : List TypeExpr) : String :=
  let start := s!"[Errno {number.plainText}] {reason.plainText}"
  match others.head?, others[2]? with
  | some file, second =>
    if isNone file then start
    else
      let last := match second with
        | some other => if isNone other then "" else " -> " ++ other.valueText
        | none => ""
      start ++ ": " ++ file.valueText ++ last
  | none, _ => start

/-- The whole number that a value is. -/
def number? : TypeExpr → Option Int
  | .constant c => c.wholeNumber?
  | _ => none

/-- An error about a place in a text. -/
def ofPlace (what : TypeExpr) (place : List TypeExpr) : String :=
  let file := match place with
    | .text path :: _ => some (String.ofList ((path.toList.reverse.takeWhile (· != '/')).reverse))
    | _ => none
  let line := (place[1]?.bind number?).map fun i => s!"line {i}"
  let parts := file.toList ++ line.toList
  if parts.isEmpty then what.plainText
  else what.plainText ++ " (" ++ ", ".intercalate parts ++ ")"

/-- What could not be coded: one item at a place, or several. -/
def codingPlace (one several : String) (item : Option String) (start stop : Int) : String :=
  match item with
  | some item =>
    if stop = start + 1 then s!"{one} {item} in position {start}"
    else s!"{several} in position {start}-{stop - 1}"
  | none => s!"{several} in position {start}-{stop - 1}"

/-- The item of a row at a position, if there is one. -/
def itemAt {α : Type} (items : List α) (i : Int) : Option α :=
  if i < 0 then none else items[i.toNat]?

/-- An error about characters or bytes that could not be coded. -/
def ofCoding? : List TypeExpr → Option String
  | [charset, .text s, start, stop, reason] => do
    let i ← number? start
    let item := (itemAt s.toList i).map fun c => "'" ++ String.ofList (Text.codeEscape c) ++ "'"
    let place := codingPlace "character" "characters" item i (← number? stop)
    pure s!"'{charset.plainText}' codec can't encode {place}: {reason.plainText}"
  | [charset, .constant (.bytes bs), start, stop, reason] => do
    let i ← number? start
    let item := (itemAt bs i).map fun b => "0x" ++ String.ofList (Text.lowerHex 2 b.toNat)
    let place := codingPlace "byte" "bytes" item i (← number? stop)
    pure s!"'{charset.plainText}' codec can't decode {place}: {reason.plainText}"
  | [.text s, start, stop, reason] => do
    let i ← number? start
    let item := (itemAt s.toList i).map fun c => "'" ++ String.ofList (Text.codeEscape c) ++ "'"
    let place := codingPlace "character" "characters" item i (← number? stop)
    pure s!"can't translate {place}: {reason.plainText}"
  | _ => none

/-- The text of a group of errors. -/
def ofGroup (what : TypeExpr) (count : Nat) : String :=
  let ending := if count = 1 then "" else "s"
  s!"{what.plainText} ({count} sub-exception{ending})"

/-- An error as its arguments. -/
def ofArgs : List TypeExpr → String
  | [] => ""
  | [one] => one.plainText
  | args => (TypeExpr.tuple args).valueText

/-- An error as a reader sees it: what it is about. -/
def plain (base : String) (args : List TypeExpr) : String :=
  if isOf "SyntaxError" base then
    match args with
    | [] => "None"
    | [what, .tuple place] => ofPlace what place
    | what :: _ => what.plainText
  else if base.startsWith "Unicode" then (ofCoding? args).getD (ofArgs args)
  else
    match args with
    | [one] => if isOf "KeyError" base then one.valueText else one.plainText
    | [what, .list errors] | [what, .tuple errors] =>
      if isOf "BaseExceptionGroup" base then ofGroup what errors.length
      else if isOf "OSError" base then ofSystem what ((args[1]?).getD .none) []
      else ofArgs args
    | number :: reason :: others =>
      if isSystemCall base args then ofSystem number reason others else ofArgs args
    | [] => ""

end ErrorText

end HttpInterface
