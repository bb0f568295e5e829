import HttpInterface.Expression.Grammar

/-!
# `HttpInterface.Expression.Fault`: what is wrong with a text that holds no expression

Tokens are looked at first: a quote or a bracket that is never closed, a number or a
character that cannot be read. If all tokens are well-formed the fault is in their order,
about which little is said. A fault is in a line; lines are counted from one, and a text
without anything has none.
-/

set_option autoImplicit false

namespace HttpInterface.Expression

/-- A fault of a text, and its line. -/
structure Fault where
  what : String
  line : Nat
  deriving DecidableEq, Repr

/-- How a fault is told. -/
def Fault.message (f : Fault) : String := s!"{f.what} (<string>, line {f.line})"

/-- What is said where nothing more is known. -/
def plainFault : String := "invalid syntax"

/-- The code point of a character as it is told. -/
def shownCode (c : Char) : String :=
  let digits := (Nat.toDigits 16 c.toNat).map Char.toUpper
  "U+" ++ String.ofList (List.replicate (4 - digits.length) '0' ++ digits)

/-- What is wrong with a character that starts no token. -/
def characterFault (c : Char) : String :=
  if c.toNat < 0x80 then plainFault
  else if Text.isPrintable c then s!"invalid character '{c}' ({shownCode c})"
  else s!"invalid non-printable character {shownCode c}"

/-- What is wrong with a quoted text; `lines` are those of the rest of the text. -/
def quoteFault (cs : List Char) (lastLine : Nat) (line : Nat) : String :=
  match cs with
  | a :: b :: c :: _ =>
    if a = b && b = c then
      s!"unterminated triple-quoted string literal (detected at line {lastLine})"
    else s!"unterminated string literal (detected at line {line})"
  | _ => s!"unterminated string literal (detected at line {line})"

/-- What is wrong with the digits behind a mark of a base. -/
def basedFault (base : String) (isDigit : Char → Bool) (cs : List Char) : String :=
  match cs.dropWhile fun c => isDigit c || c == '_' with
  | c :: _ =>
    if c.isDigit then s!"invalid digit '{c}' in {base} literal" else s!"invalid {base} literal"
  | [] => s!"invalid {base} literal"

/-- What is wrong with a number. -/
def numberFault (cs : List Char) : String :=
  let run := cs.takeWhile fun c => c.isDigit || c == '_'
  let behind := (cs.dropWhile fun c => c.isDigit || c == '_').head?
  match cs with
  | '0' :: c :: rest =>
    if c == 'x' || c == 'X' then
      basedFault "hexadecimal" (fun c => (Text.hexDigit? c).isSome) rest
    else if c == 'o' || c == 'O' then basedFault "octal" (fun c => '0' ≤ c && c < '8') rest
    else if c == 'b' || c == 'B' then basedFault "binary" (fun c => c == '0' || c == '1') rest
    else if run.any (fun c => c.isDigit && c != '0') && behind != some '.' then
      "leading zeros in decimal integer literals are not permitted; " ++
        "use an 0o prefix for octal integers"
    else "invalid decimal literal"
  | _ =>
    if behind == some 'j' || behind == some 'J' then "invalid imaginary literal"
    else "invalid decimal literal"

/-- The line in which the rest of a text begins. -/
def lineOf (all rest : List Char) : Nat :=
  1 + (all.take (all.length - rest.length)).count '\n'

/-- An opened bracket, and its line. -/
abbrev Opened := List (Char × Nat)

/-- What a bracket changes, or what is wrong with it. -/
def bracketFault (opened : Opened) (line : Nat) (c : Char) : Except String Opened :=
  if (bracketPairs.lookup c).isSome then .ok ((c, line) :: opened)
  else if bracketPairs.any fun pair => pair.2 = c then
    match opened with
    | [] => .error s!"unmatched '{c}'"
    | (last, start) :: outer =>
      if bracketPairs.lookup last = some c then .ok outer
      else
        let place := if start = line then "" else s!" on line {start}"
        .error s!"closing parenthesis '{c}' does not match opening parenthesis '{last}'{place}"
  else .ok opened

/-- The first token that is wrong; `seen` are those before it, the last one first, each with
its line and whether it stands between brackets. `fuel` bounds how many there are. -/
def tokenFault (fuel : Nat) (all : List Char) (opened : Opened)
    (seen : List (Token × Nat × Bool)) (cs : List Char) :
    Except Fault (List (Token × Nat × Bool)) :=
  let line := lineOf all cs
  match fuel, cs with
  | 0, _ => .ok seen.reverse
  | _, [] =>
    match opened.head? with
    | some (c, start) => .error ⟨s!"'{c}' was never closed", start⟩
    | none => .ok seen.reverse
  | fuel + 1, '\\' :: rest =>
    match rest with
    | '\n' :: c :: more => tokenFault fuel all opened seen (c :: more)
    | _ => .error ⟨"unexpected character after line continuation character", line⟩
  | fuel + 1, c :: rest =>
    if isLineBlank c || c = '\n' then tokenFault fuel all opened seen rest
    else if c = '#' then tokenFault fuel all opened seen (rest.dropWhile (· != '\n'))
    else
      match readToken? (c :: rest) with
      | some (token, behind) =>
        let next := match token with
          | .sign sign => bracketFault opened line (sign.toList.headD ' ')
          | _ => .ok opened
        match next with
        | .ok opened =>
          tokenFault fuel all opened ((token, line, !opened.isEmpty) :: seen) behind
        | .error what => .error ⟨what, line⟩
      | none =>
        let run := (c :: rest).takeWhile mayBeInName
        let behind := (c :: rest).dropWhile mayBeInName
        let lastLine := lineOf all []
        if startsNumber (c :: rest) then .error ⟨numberFault (c :: rest), line⟩
        else if startsQuote behind && (readBody? behind).isNone then
          .error ⟨quoteFault behind lastLine line, line⟩
        else if startsQuote behind then .error ⟨plainFault, line⟩
        else .error ⟨characterFault ((run.find? fun c => 0x80 ≤ c.toNat).getD c), line⟩

/-- The token ends an operand. -/
def endsOperand : Token → Bool
  | .name _ | .number _ | .quoted _ | .formatted _ => true
  | .word word => (constantWords.lookup word).isSome
  | .sign sign => [")", "]", "\x7d", "..."].contains sign

/-- The token can only start an operand. -/
def startsOperand : Token → Bool
  | .name _ | .number _ | .quoted _ | .formatted _ => true
  | .word word => (constantWords.lookup word).isSome || word = "lambda" || word = "not"
  | .sign sign => ["\x7b", "~", "..."].contains sign

/-- The token is a text. -/
def isTextToken : Token → Bool
  | .quoted _ | .formatted _ => true
  | _ => false

/-- Two operands stand side by side between brackets. -/
def lacksComma : List (Token × Nat × Bool) → Bool
  | (a, _, _) :: (b, line, inner) :: rest =>
    let mixed := match a with
      | .name _ => isTextToken b
      | a => isTextToken a && isTextToken b
    (inner && endsOperand a && startsOperand b && !mixed) || lacksComma ((b, line, inner) :: rest)
  | _ => false

/-- What is wrong with the order of tokens. -/
def orderFault (tokens : List (Token × Nat × Bool)) : Fault :=
  let line := ((tokens.find? fun e => 1 < e.2.1 && !e.2.2).map fun e => e.2.1).getD 1
  let starts (word : String) : Bool := tokens.any fun e => e.1 = .word word && e.2.2
  if lacksComma tokens then ⟨plainFault ++ ". Perhaps you forgot a comma?", 1⟩
  else if starts "yield" then ⟨"'yield' outside function", 1⟩
  else if tokens.any fun e => e.1 = .word "await" then ⟨"'await' outside function", 1⟩
  else if starts "async" then
    ⟨"asynchronous comprehension outside of an asynchronous function", 1⟩
  else ⟨plainFault, line⟩

/-- What is wrong with a text that holds no expression. -/
def faultOf (text : String) : Fault :=
  let cs := unifyLines text.toList
  if cs.isEmpty then ⟨plainFault, 0⟩
  else
    match tokenFault (cs.length + 1) cs [] [] cs with
    | .error fault => fault
    | .ok tokens => orderFault tokens

end HttpInterface.Expression
