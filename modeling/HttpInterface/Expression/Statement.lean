import HttpInterface.Expression.Grammar

/-!
# `HttpInterface.Expression.Statement`: simple statements

A statement is an expression whose value is passed over, or it gives values to targets, takes
names away, or finds a module. Statements stand in lines of their own or with semicolons
between them.
-/

set_option autoImplicit false

namespace HttpInterface.Expression

/-- A statement. -/
inductive Statement where
  /-- Nothing is done. -/
  | pass
  | value (e : Expression)
  /-- Every target gets the value. -/
  | assign (targets : List Expression) (value : Expression)
  /-- A target gets what an operator makes of it and a value. -/
  | change (target : Expression) (operator : BinaryOperator) (value : Expression)
  | delete (targets : List Expression)
  | importModule (path : String) (name : String)
  | importNames (module : String) (names : List (String × String))

namespace Statement

/-- The operators that a statement may change a target by. -/
def changeSigns : List (String × BinaryOperator) :=
  [("+=", .plus), ("-=", .minus), ("*=", .times), ("/=", .divide), ("//=", .floorDivide),
   ("%=", .remainder), ("**=", .power), ("<<=", .shiftLeft), (">>=", .shiftRight),
   ("&=", .ampersand), ("^=", .caret), ("|=", .bar), ("@=", .matrixTimes)]

/-- How the brackets of a token change the depth. -/
def depthBehind (depth : Nat) : Token → Nat
  | .sign sign =>
    if ["(", "[", "\x7b"].contains sign then depth + 1
    else if [")", "]", "\x7d"].contains sign then depth - 1
    else depth
  | _ => depth

/-- Tokens cut at a sign outside of all brackets. -/
def cutAt (sign : String) (depth : Nat) (front : List Token) : List Token → List (List Token)
  | [] => [front.reverse]
  | t :: rest =>
    if depth = 0 && t = .sign sign then front.reverse :: cutAt sign 0 [] rest
    else cutAt sign (depthBehind depth t) (t :: front) rest

/-- Reads a module path: names with points between them. -/
def readPath : List Token → String × List Token
  | .name n :: .sign "." :: .name m :: rest =>
    let (path, behind) := readPath (.name m :: rest)
    (n ++ "." ++ path, behind)
  | .name n :: rest => (n, rest)
  | ts => ("", ts)

/-- Reads imported names, perhaps under other names. -/
def readImported : List Token → Option (List (String × String))
  | [.name n] => some [(n, n)]
  | [.name n, .word "as", .name m] => some [(n, m)]
  | .name n :: .sign "," :: rest => (readImported rest).map ((n, n) :: ·)
  | .name n :: .word "as" :: .name m :: .sign "," :: rest =>
    (readImported rest).map ((n, m) :: ·)
  | _ => none

/-- The statement that tokens are. -/
def ofTokens? (fuel : Nat) (ts : List Token) : Option Statement :=
  match ts with
  | [.word "pass"] => some .pass
  | .word "del" :: rest => do
    match ← readAll? fuel rest with
    | .tuple items => if areTargets items then some (.delete items) else none
    | e => if isTarget e then some (.delete [e]) else none
  | .word "global" :: _ => some .pass
  | .word "import" :: rest =>
    match readPath rest with
    | (path, []) => some (.importModule path (String.ofList (path.toList.takeWhile (· != '.'))))
    | (path, [.word "as", .name n]) => some (.importModule path n)
    | _ => none
  | .word "from" :: rest =>
    match readPath rest with
    | (path, .word "import" :: names) => (readImported names).map (.importNames path ·)
    | _ => none
  | ts =>
    match changeSigns.find? fun e => (cutAt e.1 0 [] ts).length = 2 with
    | some (sign, operator) => do
      match cutAt sign 0 [] ts with
      | [front, behind] =>
        let target ← readAll? fuel front
        if isTarget target then pure (.change target operator (← readAll? fuel behind)) else none
      | _ => none
    | none => do
      let parts ← (cutAt "=" 0 [] ts).mapM (readAll? fuel)
      match parts.reverse with
      | [e] => if e.pauses then none else pure (.value e)
      | e :: targets =>
        if areTargets targets && !e.pauses then pure (.assign targets.reverse e) else none
      | [] => none

/-- The statement of a text. -/
def read? (text : String) : Option Statement := do
  match ← tokens? text with
  | [] => some .pass
  | ts => ofTokens? (fuelFor text) ts

/-- A text cut at the ends of its lines and at semicolons, each piece with what ended it. -/
def cutText (front : List Char) : List Char → List (List Char × Char)
  | [] => [(front.reverse, '\n')]
  | c :: rest =>
    if c = '\n' || c = ';' then (front.reverse, c) :: cutText [] rest
    else cutText (c :: front) rest

/-- The statements of pieces of a text. A piece that is none is put together with the next
one, for what ended it stands within a text or between brackets. -/
def readPieces (front : List Char) : List (List Char × Char) → Option (List Statement)
  | [] => if front.isEmpty then some [] else none
  | (piece, ended) :: rest =>
    let whole := front ++ piece
    let trimmed := if front.isEmpty then whole.dropWhile fun c => c == ' ' || c == '\t' else whole
    match read? (String.ofList trimmed) with
    | some s => (readPieces [] rest).map (s :: ·)
    | none => readPieces (whole ++ [ended]) rest

/-- The statements of a text. -/
def readLines? (text : String) : Option (List Statement) :=
  readPieces [] (cutText [] (unifyLines text.toList))

end Statement

end HttpInterface.Expression
