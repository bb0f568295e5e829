import HttpInterface.Expression
import HttpInterface.Expression.Token

/-!
# `HttpInterface.Expression.Grammar`: reading expressions

Operators bind in levels: `or`, `and`, `not`, comparisons, the bar, `^`, `&`,
shifts, sums, products, signs, powers. Behind a term may stand points, calls and
brackets. A choice or a function without a name stands outside all operators.

Every function takes tokens and gives an expression with the tokens behind it.
`fuel` bounds how deep the functions call each other; `read?` starts with enough
of it for its text. The expressions in the gaps of a formatted text are read where
it stands.
-/

set_option autoImplicit false

namespace HttpInterface.Expression

/-! ### Operators by level -/

/-- The operators between values, level by level, those that bind least first. -/
def operatorLevels : List (List (String × BinaryOperator)) :=
  [[("|", .bar)], [("^", .caret)], [("&", .ampersand)],
   [("<<", .shiftLeft), (">>", .shiftRight)], [("+", .plus), ("-", .minus)],
   [("*", .times), ("/", .divide), ("//", .floorDivide), ("%", .remainder),
    ("@", .matrixTimes)]]

/-- The signs of operators in front of a value. -/
def unaryOperators : List (String × UnaryOperator) :=
  [("+", .plus), ("-", .minus), ("~", .complement)]

/-- The comparisons that are signs. -/
def comparisonSigns : List (String × Comparison) :=
  [("==", .equal), ("!=", .unequal), ("<=", .lessOrEqual), ("<", .less),
   (">=", .greaterOrEqual), (">", .greater)]

/-- Reads a comparison. -/
def readComparison? : List Token → Option (Comparison × List Token)
  | .sign sign :: rest => (comparisonSigns.lookup sign).map fun c => (c, rest)
  | .word "is" :: .word "not" :: rest => some (.distinct, rest)
  | .word "is" :: rest => some (.identical, rest)
  | .word "not" :: .word "in" :: rest => some (.notElementOf, rest)
  | .word "in" :: rest => some (.elementOf, rest)
  | _ => none

/-! ### Rules that are no matter of the form -/

/-- A name that cannot be given to a value. -/
def isFixedName (name : String) : Bool :=
  name == "__debug__"

mutual

/-- Values can be given to the expression. -/
def isTarget : Expression → Bool
  | .name n => !isFixedName n
  | .memberOf _ n => !isFixedName n
  | .subscript _ _ => true
  | .tuple items => areTargets items
  | .list items => areTargets items
  | .spread value => isTarget value
  | _ => false

/-- Values can be given to all of the expressions. -/
def areTargets : List Expression → Bool
  | [] => true
  | e :: rest => isTarget e && areTargets rest

end

/-- All elements of a value are taken, in one of the two ways. -/
def isSpread : Expression → Bool
  | .spread _ | .spreadEntries _ => true
  | _ => false

/-- The names of arguments that have one. -/
def argumentNames (args : List Expression) : List String :=
  args.filterMap fun
    | .named n _ => some n
    | _ => none

/-- The arguments stand in an order that is admitted: nothing without a name
behind a name, and no elements behind entries that are taken. -/
def areOrdered : List Expression → Bool
  | [] => true
  | .named _ _ :: rest =>
    rest.all (fun | .named _ _ | .spread _ | .spreadEntries _ => true | _ => false) &&
      areOrdered rest
  | .spreadEntries _ :: rest =>
    rest.all (fun | .named _ _ | .spreadEntries _ => true | _ => false) && areOrdered rest
  | _ :: rest => areOrdered rest

/-- The arguments of a call are well-formed: they are ordered, no name comes
twice, and a generator without brackets is alone. -/
def areArguments (args : List Expression) : Bool :=
  let names := argumentNames args
  areOrdered args && names.eraseDups.length == names.length && !names.any isFixedName

/-! ### Reading -/

mutual

/-- A part of the expression gets a name. -/
def assigns : Expression → Bool
  | .assigned _ _ => true
  | .name _ | .constant _ => false
  | .tuple items | .list items | .set items | .dict items => assignsAny items
  | .slice items | .formatted items => assignsAny items
  | .function _ items body => assignsAny items || assigns body
  | .spread e | .spreadEntries e | .memberOf e _ | .named _ e => assigns e
  | .unary _ e | .negation e | .condition e | .pause e | .pauseEach e => assigns e
  | .entry a b | .subscript a b | .binary _ a b => assigns a || assigns b
  | .conjunction a b | .disjunction a b | .loop a b | .asyncLoop a b
  | .gap a _ b => assigns a || assigns b
  | .call e args => assigns e || assignsAny args
  | .comparison e links => assigns e || assignsLink links
  | .choice a b c => assigns a || assigns b || assigns c
  | .comprehension _ e steps => assigns e || assignsAny steps

/-- A part of some expressions gets a name. -/
def assignsAny : List Expression → Bool
  | [] => false
  | e :: rest => assigns e || assignsAny rest

/-- A part of the values behind comparisons gets a name. -/
def assignsLink : List (Comparison × Expression) → Bool
  | [] => false
  | (_, e) :: rest => assigns e || assignsLink rest

end

/-- The only one of some items, if there is no comma. -/
def loneItem? (items : List Expression) (commas : Bool) : Option Expression :=
  match items, commas with
  | [item], false => some item
  | _, _ => none

/-- The slice with some bounds; those that are not given are nothing. -/
def sliceOf (bounds : List Expression) : Expression :=
  .slice (bounds ++ List.replicate (3 - bounds.length) (.constant .null))

/-- A name that gets a value follows, without brackets around. -/
def startsAssignment : List Token → Bool
  | .name _ :: .sign ":=" :: _ => true
  | _ => false

/-- The constants that are words. -/
def constantWords : List (String × Constant) :=
  [("None", .null), ("True", .bool true), ("False", .bool false)]

/-- Both values are bytes, or none of both is. -/
def areAlike : Expression → Expression → Bool
  | .constant (.bytes _), .constant (.bytes _) => true
  | .constant (.bytes _), _ | _, .constant (.bytes _) => false
  | _, _ => true

/-- Two texts that stand side by side as one. -/
def joinTexts : Expression → Expression → Expression
  | .constant (.text s), .constant (.text t) => .constant (.text (s ++ t))
  | .constant (.bytes bs), .constant (.bytes cs) => .constant (.bytes (bs ++ cs))
  | .formatted pieces, .formatted more => .formatted (pieces ++ more)
  | .formatted pieces, e => .formatted (pieces ++ [e])
  | e, .formatted pieces => .formatted (e :: pieces)
  | e, _ => e

/-- No name that is assigned within a comprehension is one of its loops. -/
def keepsLoopNames (element : Expression) (steps : List Expression) : Bool :=
  let assigned := element.assignedNames ++ Expression.assignedNamesOf steps
  (Expression.loopNames steps).all fun n => !assigned.contains n

/-- The steps of a comprehension hand nothing out, except that the first source may. -/
def keepsGoing (element : Expression) (steps : List Expression) : Bool :=
  let later := match steps with
    | .loop target _ :: rest | .asyncLoop target _ :: rest => target :: rest
    | other => other
  !element.pauses && !Expression.pausesAny later

/-- Loops over what is there only later stand in generators alone. -/
def areInOrder (kind : ComprehensionKind) (steps : List Expression) : Bool :=
  kind = .generator || steps.all fun
    | .asyncLoop _ _ => false
    | _ => true

/-- The parameters that are read so far. No name comes twice, and a parameter with a
value is followed by others with one, up to a `*`. -/
structure ParameterState where
  /-- 0 for parameters by position, 1 behind `/`, 2 behind `*`, 3 behind `**`. -/
  stage : Nat := 0
  names : List String := []
  hasDefault : Bool := false
  /-- `*` stands alone, and no name follows it yet. -/
  bareStar : Bool := false
  /-- The parameters, the last one first. -/
  parameters : List SignatureParameter := []
  deriving DecidableEq, Repr

/-- The state with one more parameter. -/
def ParameterState.add (state : ParameterState) (name : String) (kind : ParameterKind)
    (isOptional : Bool) : ParameterState :=
  { state with
    names := name :: state.names
    parameters := ⟨name, kind, isOptional⟩ :: state.parameters }

/-- The state behind `/`, which makes the parameters so far ones by position only. -/
def ParameterState.endPositional (state : ParameterState) : ParameterState :=
  { state with
    stage := 1
    parameters := state.parameters.map fun p => { p with kind := .positional } }

mutual

/-- Reads an expression. -/
def readExpression (fuel : Nat) (ts : List Token) : Option (Expression × List Token) :=
  match fuel with
  | 0 => none
  | fuel + 1 =>
    match ts with
    | .word "lambda" :: rest => readFunction fuel {} rest
    | _ => do
      let (yes, rest) ← readOr fuel ts
      match rest with
      | .word "if" :: rest => do
        let (test, rest) ← readOr fuel rest
        match rest with
        | .word "else" :: rest => do
          let (no, rest) ← readExpression fuel rest
          some (.choice test yes no, rest)
        | _ => none
      | _ => some (yes, rest)

/-- Reads an expression that may get a name. -/
def readNamed (fuel : Nat) (ts : List Token) : Option (Expression × List Token) :=
  match fuel with
  | 0 => none
  | fuel + 1 =>
    match ts with
    | .name n :: .sign ":=" :: rest => do
      let (value, rest) ← readExpression fuel rest
      if isFixedName n then none else some (.assigned n value, rest)
    | _ => readExpression fuel ts

/-- Reads the parameters of a function without a name, and its body. -/
def readFunction (fuel : Nat) (state : ParameterState) (ts : List Token) :
    Option (Expression × List Token) :=
  match fuel with
  | 0 => none
  | fuel + 1 =>
    -- What follows a parameter: a comma and more of them, or the body.
    let continued (state : ParameterState) (defaults : List Expression) (ts : List Token) :
        Option (Expression × List Token) := do
      let (e, rest) ←
        match ts with
        | .sign "," :: rest => readFunction fuel state rest
        | .sign ":" :: _ => readFunction fuel state ts
        | _ => none
      match e with
      | .function parameters more body => some (.function parameters (defaults ++ more) body, rest)
      | _ => none
    let kind : ParameterKind := if state.stage < 2 then .normal else .keyword
    let isFree (n : String) : Bool := !state.names.contains n && !isFixedName n
    match ts with
    | .sign ":" :: rest => do
      if state.bareStar then none
      else
        let (body, rest) ← readExpression fuel rest
        some (.function state.parameters.reverse [] body, rest)
    | .sign "/" :: rest =>
      if state.stage = 0 && !state.names.isEmpty then continued state.endPositional [] rest
      else none
    | .sign "*" :: .name n :: rest =>
      if state.stage < 2 && isFree n then
        continued { state.add n .restPositional true with stage := 2 } [] rest
      else none
    | .sign "*" :: .sign "," :: rest =>
      if state.stage < 2 then
        continued { state with stage := 2, bareStar := true } [] (.sign "," :: rest)
      else none
    | .sign "**" :: .name n :: rest =>
      if state.stage < 3 && !state.bareStar && isFree n then
        continued { state.add n .restKeyword true with stage := 3 } [] rest
      else none
    | .name n :: .sign "=" :: rest => do
      if state.stage = 3 || !isFree n then none
      else
        let (value, rest) ← readExpression fuel rest
        continued { state.add n kind true with hasDefault := true, bareStar := false } [value] rest
    | .name n :: rest =>
      if state.stage = 3 || !isFree n || (state.hasDefault && state.stage < 2) then none
      else continued { state.add n kind false with bareStar := false } [] rest
    | _ => none

/-- Reads expressions with `or` between them. -/
def readOr (fuel : Nat) (ts : List Token) : Option (Expression × List Token) :=
  match fuel with
  | 0 => none
  | fuel + 1 => do
    let (left, rest) ← readAnd fuel ts
    match rest with
    | .word "or" :: rest => do
      let (right, rest) ← readOr fuel rest
      some (.disjunction left right, rest)
    | _ => some (left, rest)

/-- Reads expressions with `and` between them. -/
def readAnd (fuel : Nat) (ts : List Token) : Option (Expression × List Token) :=
  match fuel with
  | 0 => none
  | fuel + 1 => do
    let (left, rest) ← readNot fuel ts
    match rest with
    | .word "and" :: rest => do
      let (right, rest) ← readAnd fuel rest
      some (.conjunction left right, rest)
    | _ => some (left, rest)

/-- Reads a comparison, or one with `not` in front. -/
def readNot (fuel : Nat) (ts : List Token) : Option (Expression × List Token) :=
  match fuel with
  | 0 => none
  | fuel + 1 =>
    match ts with
    | .word "not" :: rest => do
      let (operand, rest) ← readNot fuel rest
      some (.negation operand, rest)
    | _ => do
      let (first, rest) ← readOperators fuel operatorLevels ts
      let (links, rest) ← readLinks fuel rest
      some (if links.isEmpty then first else .comparison first links, rest)

/-- Reads comparisons with the values behind them. -/
def readLinks (fuel : Nat) (ts : List Token) :
    Option (List (Comparison × Expression) × List Token) :=
  match fuel with
  | 0 => none
  | fuel + 1 =>
    match readComparison? ts with
    | none => some ([], ts)
    | some (test, rest) => do
      let (value, rest) ← readOperators fuel operatorLevels rest
      let (links, rest) ← readLinks fuel rest
      some ((test, value) :: links, rest)

/-- Reads values with operators of the given levels between them. -/
def readOperators (fuel : Nat) (levels : List (List (String × BinaryOperator)))
    (ts : List Token) : Option (Expression × List Token) :=
  match fuel with
  | 0 => none
  | fuel + 1 =>
    match levels with
    | [] => readSigned fuel ts
    | level :: inner => do
      let (left, rest) ← readOperators fuel inner ts
      readMore fuel level inner left rest

/-- Reads on behind the left side of an operator of one level. -/
def readMore (fuel : Nat) (level : List (String × BinaryOperator))
    (inner : List (List (String × BinaryOperator))) (left : Expression) (ts : List Token) :
    Option (Expression × List Token) :=
  match fuel with
  | 0 => none
  | fuel + 1 =>
    match ts with
    | .sign sign :: rest =>
      match level.lookup sign with
      | some operator => do
        let (right, rest) ← readOperators fuel inner rest
        readMore fuel level inner (.binary operator left right) rest
      | none => some (left, ts)
    | _ => some (left, ts)

/-- Reads a value with signs in front, or a power. -/
def readSigned (fuel : Nat) (ts : List Token) : Option (Expression × List Token) :=
  match fuel with
  | 0 => none
  | fuel + 1 =>
    let power : Option (Expression × List Token) := do
      let (base, rest) ← readAtom fuel ts
      let (base, rest) ← readSuffixes fuel base rest
      match rest with
      | .sign "**" :: rest => do
        let (exponent, rest) ← readSigned fuel rest
        some (.binary .power base exponent, rest)
      | _ => some (base, rest)
    match ts with
    | .sign sign :: rest =>
      match unaryOperators.lookup sign with
      | some operator => do
        let (operand, rest) ← readSigned fuel rest
        some (.unary operator operand, rest)
      | none => power
    | _ => power

/-- Reads points, calls and brackets behind a term. -/
def readSuffixes (fuel : Nat) (head : Expression) (ts : List Token) :
    Option (Expression × List Token) :=
  match fuel with
  | 0 => none
  | fuel + 1 =>
    match ts with
    | .sign "." :: .name n :: rest => readSuffixes fuel (.memberOf head n) rest
    | .sign "." :: _ => none
    | .sign "(" :: rest => do
      let (args, rest) ← readArguments fuel true rest
      if areArguments args then readSuffixes fuel (.call head args) rest else none
    | .sign "[" :: rest => do
      let (index, rest) ← readIndex fuel rest
      readSuffixes fuel (.subscript head index) rest
    | _ => some (head, ts)

/-- Reads the arguments of a call and the bracket that ends it. A generator that is
the only argument needs no brackets of its own; `isFirst` says that no argument
is read so far. -/
def readArguments (fuel : Nat) (isFirst : Bool) (ts : List Token) :
    Option (List Expression × List Token) :=
  match fuel with
  | 0 => none
  | fuel + 1 =>
    match ts with
    | .sign ")" :: rest => some ([], rest)
    | _ => do
      let (arg, mayBeElement, rest) ←
        match ts with
        | .sign "*" :: rest => do
          let (value, rest) ← readExpression fuel rest
          some (Expression.spread value, false, rest)
        | .sign "**" :: rest => do
          let (value, rest) ← readExpression fuel rest
          some (.spreadEntries value, false, rest)
        | .name n :: .sign "=" :: rest => do
          let (value, rest) ← readExpression fuel rest
          some (.named n value, false, rest)
        | _ => do
          let (value, rest) ← readNamed fuel ts
          some (value, isFirst, rest)
      match rest with
      | .sign ")" :: rest => some ([arg], rest)
      | .sign "," :: rest => do
        let (args, rest) ← readArguments fuel false rest
        some (arg :: args, rest)
      | _ => do
        let (e, rest) ←
          readComprehension fuel .generator ")" (if mayBeElement then some arg else none) rest
        some ([e], rest)

/-- Reads what stands between square brackets behind a term, and the bracket that
ends it. Several indices are a tuple. -/
def readIndex (fuel : Nat) (ts : List Token) : Option (Expression × List Token) :=
  match fuel with
  | 0 => none
  | fuel + 1 => do
    let (first, rest) ← readSlice fuel ts
    match rest with
    | .sign "]" :: rest =>
      some (if isSpread first then .tuple [first] else first, rest)
    | .sign "," :: rest => do
      let (others, rest) ← readIndices fuel rest
      some (.tuple (first :: others), rest)
    | _ => none

/-- Reads more indices and the bracket that ends them. -/
def readIndices (fuel : Nat) (ts : List Token) : Option (List Expression × List Token) :=
  match fuel with
  | 0 => none
  | fuel + 1 =>
    match ts with
    | .sign "]" :: rest => some ([], rest)
    | _ => do
      let (first, rest) ← readSlice fuel ts
      match rest with
      | .sign "]" :: rest => some ([first], rest)
      | .sign "," :: rest => do
        let (others, rest) ← readIndices fuel rest
        some (first :: others, rest)
      | _ => none

/-- Reads one index: an expression, elements that are taken, or a slice. -/
def readSlice (fuel : Nat) (ts : List Token) : Option (Expression × List Token) :=
  match fuel with
  | 0 => none
  | fuel + 1 =>
    match ts with
    | .sign "*" :: rest => do
      let (value, rest) ← readExpression fuel rest
      some (.spread value, rest)
    | .sign ":" :: rest => readBounds fuel [.constant .null] rest
    | _ => do
      let (value, rest) ← readNamed fuel ts
      match rest with
      | .sign ":" :: rest =>
        if startsAssignment ts then none else readBounds fuel [value] rest
      | rest => some (value, rest)

/-- Reads the bounds of a slice behind those that have their colon. -/
def readBounds (fuel : Nat) (bounds : List Expression) (ts : List Token) :
    Option (Expression × List Token) :=
  match fuel with
  | 0 => none
  | fuel + 1 =>
    let more : Bool := bounds.length < 2
    match ts with
    | .sign ":" :: rest =>
      if more then readBounds fuel (bounds ++ [.constant .null]) rest else none
    | .sign "," :: _ | .sign "]" :: _ => some (sliceOf bounds, ts)
    | _ => do
      let (bound, rest) ← readExpression fuel ts
      match rest with
      | .sign ":" :: rest =>
        if more then readBounds fuel (bounds ++ [bound]) rest else none
      | rest => some (sliceOf (bounds ++ [bound]), rest)

/-- Reads a term. -/
def readAtom (fuel : Nat) (ts : List Token) : Option (Expression × List Token) :=
  match fuel with
  | 0 => none
  | fuel + 1 =>
    match ts with
    | .name n :: rest => some (.name n, rest)
    | .number value :: rest => some (.constant value, rest)
    | .quoted value :: rest => readMoreText fuel (.constant value) rest
    | .formatted pieces :: rest => do readMoreText fuel (← readPieces fuel pieces) rest
    | .word word :: rest =>
      (constantWords.lookup word).map fun value => (.constant value, rest)
    | .sign "..." :: rest => some (.constant .ellipsis, rest)
    | .sign "(" :: rest => readGroup fuel rest
    | .sign "[" :: rest => do
      let (items, commas, rest) ← readItems fuel "]" rest
      match rest with
      | .sign "]" :: rest => some (.list items, rest)
      | _ => readComprehension fuel .list "]" (loneItem? items commas) rest
    | .sign "\x7b" :: rest => readBraces fuel rest
    | _ => none

/-- Reads on behind a text: texts that stand side by side are one; texts and bytes do
not mix. -/
def readMoreText (fuel : Nat) (front : Expression) (ts : List Token) :
    Option (Expression × List Token) :=
  match fuel with
  | 0 => none
  | fuel + 1 =>
    let join (next : Expression) (rest : List Token) : Option (Expression × List Token) :=
      if areAlike front next then readMoreText fuel (joinTexts front next) rest else none
    match ts with
    | .quoted value :: rest => join (.constant value) rest
    | .formatted pieces :: rest => do join (← readPieces fuel pieces) rest
    | _ => some (front, ts)

/-- Reads the expressions in a formatted text. -/
def readPieces (fuel : Nat) (pieces : FormatPieces) : Option Expression :=
  match fuel with
  | 0 => none
  | fuel + 1 => do
    let expressions ← pieces.mapM fun
      | .text s => some (.constant (.text s))
      | .gap source form layout => do
        some (.gap (← readSource fuel source) form (← readLayout fuel (layout.getD [])))
    some (.formatted expressions)

/-- Reads the expressions in a layout. -/
def readLayout (fuel : Nat) (pieces : LayoutPieces) : Option Expression :=
  match fuel with
  | 0 => none
  | fuel + 1 => do
    let expressions ← pieces.mapM fun
      | .text s => some (.constant (.text s))
      | .gap source form layout => do
        some (.gap (← readSource fuel source) form (.constant (.text (layout.getD ""))))
    some (.formatted expressions)

/-- Reads the text of an expression in a gap, which may be several with commas between
them. -/
def readSource (fuel : Nat) (source : String) : Option Expression :=
  match fuel with
  | 0 => none
  | fuel + 1 => do
    match ← readExpression fuel (← tokens? ("(" ++ source ++ ")")) with
    | (e, []) => some e
    | _ => none

/-- Reads what stands between parentheses: a tuple, a generator or one
expression. -/
def readGroup (fuel : Nat) (ts : List Token) : Option (Expression × List Token) :=
  match fuel with
  | 0 => none
  | fuel + 1 => do
    if let .word "yield" :: rest := ts then return ← readPause fuel rest
    let (items, commas, rest) ← readItems fuel ")" ts
    match rest with
    | .sign ")" :: rest =>
      match items, commas with
      | [item], false => if isSpread item then none else some (item, rest)
      | items, _ => some (.tuple items, rest)
    | _ => readComprehension fuel .generator ")" (loneItem? items commas) rest

/-- Reads what is handed out, and the bracket that ends it. -/
def readPause (fuel : Nat) (ts : List Token) : Option (Expression × List Token) :=
  match fuel with
  | 0 => none
  | fuel + 1 =>
    match ts with
    | .sign ")" :: rest => some (.pause (.constant .null), rest)
    | .word "from" :: rest => do
      match ← readExpression fuel rest with
      | (e, .sign ")" :: rest) => some (.pauseEach e, rest)
      | _ => none
    | _ => do
      match ← readItems fuel ")" ts with
      | ([item], false, .sign ")" :: rest) =>
        if isSpread item then none else some (.pause item, rest)
      | (items, true, .sign ")" :: rest) => some (.pause (.tuple items), rest)
      | _ => none

/-- Reads what stands between braces: a dictionary, a set or a comprehension. -/
def readBraces (fuel : Nat) (ts : List Token) : Option (Expression × List Token) :=
  match fuel with
  | 0 => none
  | fuel + 1 =>
    match ts with
    | .sign "\x7d" :: rest => some (.dict [], rest)
    | .sign "**" :: _ => readEntries fuel [] ts
    | _ => do
      let (first, mayBeKey, rest) ←
        match ts with
        | .sign "*" :: rest => do
          let (value, rest) ← readOperators fuel operatorLevels rest
          some (Expression.spread value, false, rest)
        | _ => do
          let (value, rest) ← readNamed fuel ts
          some (value, !startsAssignment ts, rest)
      match rest with
      | .sign "\x7d" :: rest => some (.set [first], rest)
      | .sign "," :: rest => do
        let (items, _, rest) ← readItems fuel "\x7d" rest
        match rest with
        | .sign "\x7d" :: rest => some (.set (first :: items), rest)
        | _ => none
      | .sign ":" :: rest => do
        if mayBeKey then
          let (value, rest) ← readExpression fuel rest
          readMoreEntries fuel [.entry first value] rest
        else none
      | _ => readComprehension fuel .set "\x7d" (some first) rest

/-- Reads the entries of a dictionary and the brace that ends it. -/
def readEntries (fuel : Nat) (items : List Expression) (ts : List Token) :
    Option (Expression × List Token) :=
  match fuel with
  | 0 => none
  | fuel + 1 =>
    match ts with
    | .sign "\x7d" :: rest => some (.dict items, rest)
    | .sign "**" :: rest => do
      let (value, rest) ← readOperators fuel operatorLevels rest
      readMoreEntries fuel (items ++ [.spreadEntries value]) rest
    | _ => do
      let (key, rest) ← readExpression fuel ts
      match rest with
      | .sign ":" :: rest => do
        let (value, rest) ← readExpression fuel rest
        readMoreEntries fuel (items ++ [.entry key value]) rest
      | _ => none

/-- Reads on behind an entry. -/
def readMoreEntries (fuel : Nat) (items : List Expression) (ts : List Token) :
    Option (Expression × List Token) :=
  match fuel with
  | 0 => none
  | fuel + 1 =>
    match ts with
    | .sign "\x7d" :: rest => some (.dict items, rest)
    | .sign "," :: rest => readEntries fuel items rest
    | _ => readComprehension fuel .dict "\x7d" (loneItem? items false) ts

/-- Reads items with commas between them, up to the bracket `close` or whatever
else follows an item. It says whether there is a comma. -/
def readItems (fuel : Nat) (close : String) (ts : List Token) :
    Option (List Expression × Bool × List Token) :=
  match fuel with
  | 0 => none
  | fuel + 1 =>
    match ts with
    | [] => none
    | t :: _ =>
      if t = .sign close then some ([], false, ts)
      else do
        let (item, rest) ←
          match ts with
          | .sign "*" :: rest => do
            let (value, rest) ← readOperators fuel operatorLevels rest
            some (Expression.spread value, rest)
          | _ => readNamed fuel ts
        match rest with
        | .sign "," :: rest => do
          let (items, _, rest) ← readItems fuel close rest
          some (item :: items, true, rest)
        | _ => some ([item], false, rest)

/-- Reads the steps of a comprehension with the element given, and the bracket
`close` that ends it. -/
def readComprehension (fuel : Nat) (kind : ComprehensionKind) (close : String)
    (element : Option Expression) (ts : List Token) : Option (Expression × List Token) :=
  match fuel with
  | 0 => none
  | fuel + 1 =>
    let isStart : Bool := match ts with
      | .word "for" :: _ | .word "async" :: .word "for" :: _ => true
      | _ => false
    match element with
    | some element => do
      if !isStart || isSpread element then none
      else
        let (steps, rest) ← readSteps fuel ts
        match rest with
        | t :: rest =>
          if t = .sign close && keepsLoopNames element steps && keepsGoing element steps &&
              areInOrder kind steps then
            some (.comprehension kind element steps, rest)
          else none
        | [] => none
    | none => none

/-- Reads loops and conditions. -/
def readSteps (fuel : Nat) (ts : List Token) : Option (List Expression × List Token) :=
  match fuel with
  | 0 => none
  | fuel + 1 =>
    match ts with
    | .word "async" :: .word "for" :: rest => do
      match ← readSteps fuel (.word "for" :: rest) with
      | (.loop target source :: steps, rest) => some (.asyncLoop target source :: steps, rest)
      | _ => none
    | .word "for" :: rest => do
      let (targets, commas, rest) ← readTargets fuel rest
      let target := match targets, commas with
        | [one], false => one
        | several, _ => .tuple several
      match rest with
      | .word "in" :: rest => do
        let (source, rest) ← readOr fuel rest
        let (steps, rest) ← readSteps fuel rest
        if isSpread target || !isTarget target || assigns source then none
        else some (.loop target source :: steps, rest)
      | _ => none
    | .word "if" :: rest => do
      let (test, rest) ← readOr fuel rest
      let (steps, rest) ← readSteps fuel rest
      some (.condition test :: steps, rest)
    | _ => some ([], ts)

/-- Reads the targets of a loop. -/
def readTargets (fuel : Nat) (ts : List Token) :
    Option (List Expression × Bool × List Token) :=
  match fuel with
  | 0 => none
  | fuel + 1 => do
    let (starred, ts) := match ts with
      | .sign "*" :: rest => (true, rest)
      | _ => (false, ts)
    let (target, rest) ← readAtom fuel ts
    let (target, rest) ← readSuffixes fuel target rest
    let target := if starred then .spread target else target
    match rest with
    | .sign "," :: .word "in" :: rest => some ([target], true, .word "in" :: rest)
    | .sign "," :: rest => do
      let (targets, _, rest) ← readTargets fuel rest
      some (target :: targets, true, rest)
    | _ => some ([target], false, rest)

end

/-- How much fuel the reading of a text takes at most: one for each function between a
term and the expression around it, and as much again for every character. -/
def fuelFor (text : String) : Nat :=
  20 * text.length + 20

/-- Reads expressions with commas between them, up to the end: several, or one
with a comma behind it, are a tuple. -/
def readAll? (fuel : Nat) (ts : List Token) : Option Expression := do
  let rec more (count : Nat) (ts : List Token) : Option (List Expression) :=
    match count, ts with
    | 0, _ => none
    | _, [] => some []
    | count + 1, ts => do
      let (e, rest) ← readExpression fuel ts
      match rest with
      | [] => some [e]
      | .sign "," :: rest => (more count rest).map (e :: ·)
      | _ => none
  let (first, rest) ← readExpression fuel ts
  match rest with
  | [] => some first
  | .sign "," :: rest => (more (rest.length + 1) rest).map fun others => .tuple (first :: others)
  | _ => none

/-- The expression that a text holds. Only functions hand values out. -/
def read? (text : String) : Option Expression := do
  let e ← readAll? (fuelFor text) (← tokens? text)
  if e.pauses then none else some e

end HttpInterface.Expression
