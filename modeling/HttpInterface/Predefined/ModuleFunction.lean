import HttpInterface.Object.JsonForm
import HttpInterface.Percent
import HttpInterface.Predefined.Function

/-!
# `HttpInterface.Predefined.ModuleFunction`: what functions of modules do

The functions behind operators, those of numbers, those that read and write documents, and
those that ask about types. What the other functions of modules do is left out.
-/

set_option autoImplicit false

namespace HttpInterface.Predefined

open Evaluation

/-! ### Operators as functions -/

/-- The names of operators between two values. -/
def operatorNames : List (String × BinaryOperator) :=
  [("add", .plus), ("concat", .plus), ("sub", .minus), ("mul", .times), ("truediv", .divide),
   ("floordiv", .floorDivide), ("mod", .remainder), ("pow", .power), ("lshift", .shiftLeft),
   ("rshift", .shiftRight), ("and_", .ampersand), ("or_", .bar), ("xor", .caret),
   ("matmul", .matrixTimes)]

/-- The names of comparisons. -/
def testNames : List (String × Comparison) :=
  [("eq", .equal), ("ne", .unequal), ("lt", .less), ("le", .lessOrEqual), ("gt", .greater),
   ("ge", .greaterOrEqual), ("is_", .identical), ("is_not", .distinct)]

/-- How a function behind an operator takes its arguments. -/
def operatorFunctionCalling (name : String) : Calling :=
  if ["not_", "truth", "neg", "pos", "abs", "inv", "invert", "index"].contains name then .one
  else if name = "setitem" then .positional 3 3
  else .positional 2 2

/-- What a function behind an operator does. -/
def callOperatorFunction (engine : Engine) (name : String) (args : List (Option Object)) :
    Evaluation (Option Object) := do
  let first := argument args 0
  let second := argument args 1
  if let some operator := operatorNames.lookup name then
    return some (← combine engine operator first second)
  if let some test := testNames.lookup name then
    return some (.bool (← compare engine test first second))
  match name with
  | "contains" => do pure (some (.bool (← isElement engine second first)))
  | "getitem" => some <$> subscript first second
  | "setitem" => do
    setItem first second (argument args 2)
    pure (some .none)
  | "delitem" => do
    removeItem first second
    pure (some .none)
  | "not_" => do pure (some (.bool !(← truth engine first)))
  | "truth" => do pure (some (.bool (← truth engine first)))
  | "neg" => some <$> change .minus first
  | "pos" => some <$> change .plus first
  | "inv" | "invert" => some <$> change .complement first
  | "abs" => some <$> absolute first
  | "index" => do pure (some (.int (← demandInt first)))
  | "countOf" => do
    let items ← elements engine first
    let equal ← items.filterM fun o => compare engine .equal o second
    pure (some (.int equal.length))
  | "indexOf" => do
    let items ← elements engine first
    let marks ← items.mapM fun o => compare engine .equal o second
    match marks.findIdx? id with
    | some i => pure (some (.int i))
    | none => valueError "sequence.index(x): x not in sequence"
  | _ => pure none

/-! ### Numbers -/

/-- The number with a point that an object is. -/
def realArgument (o : Object) : Evaluation Float := do
  match o.number? with
  | some (.complex _ _) | none => typeError s!"must be real number, not {← kindName o}"
  | some _ => demandReal o

/-- The functions from numbers to numbers. -/
def realFunctions : List (String × (Float → Float)) :=
  [("sqrt", Float.sqrt), ("cbrt", Float.cbrt), ("exp", Float.exp), ("exp2", Float.exp2),
   ("log2", Float.log2), ("log10", Float.log10), ("sin", Float.sin), ("cos", Float.cos),
   ("tan", Float.tan), ("asin", Float.asin), ("acos", Float.acos), ("atan", Float.atan),
   ("sinh", Float.sinh), ("cosh", Float.cosh), ("tanh", Float.tanh), ("asinh", Float.asinh),
   ("acosh", Float.acosh), ("atanh", Float.atanh), ("fabs", Float.abs),
   ("degrees", fun x => x * (180.0 / 3.141592653589793)),
   ("radians", fun x => x * (3.141592653589793 / 180.0))]

/-- The functions that have no value at zero. -/
def logarithms : List String := ["log2", "log10", "log"]

/-- The value of a function, which has to be a number again. -/
def checkedReal (name : String) (arguments : List Float) (result : Float) :
    Evaluation Object := do
  let isGiven (test : Float → Bool) : Bool := arguments.any test
  if result.isNaN && !isGiven Float.isNaN then valueError "math domain error"
  if result.isInf && !isGiven Float.isInf then
    if logarithms.contains name || name = "atanh" then valueError "math domain error"
    raise "OverflowError" "math range error"
  pure (.float result)

/-- The product of the whole numbers from one up to a number. -/
def factorial : Nat → Nat
  | 0 => 1
  | n + 1 => (n + 1) * factorial n

/-- The product of as many whole numbers in a row, down from a number. -/
def fallingProduct (n : Nat) : Nat → Nat
  | 0 => 1
  | k + 1 => (n - k) * fallingProduct n k

/-- A root of a whole number, rounded down; `fuel` bounds the steps towards it. -/
def wholeRoot (fuel n guess : Nat) : Nat :=
  match fuel with
  | 0 => guess
  | fuel + 1 =>
    let next := (guess + n / guess) / 2
    if guess ≤ next then guess else wholeRoot fuel n next

/-- A whole number that may not be negative. -/
def countArgument (message : String) (o : Object) : Evaluation Nat := do
  let i ← demandInt o
  if i < 0 then valueError message
  pure i.toNat

/-- The largest number whose factorial is found out. -/
def maxFactorial : Nat := 5000

/-- What a function of numbers does. -/
def callMath (engine : Engine) (name : String) (given : ArgumentList Object) :
    Evaluation (Option Object) := do
  let take (calling : Calling) : Evaluation (List (Option Object)) := do
    let fullName := if calling = .one then s!"math.{name}" else name
    calling.take fullName name given
  if let some f := realFunctions.lookup name then
    let x ← realArgument (argument (← take .one) 0)
    return some (← checkedReal name [x] (f x))
  match name with
  | "floor" | "ceil" | "trunc" => do
    let o := argument (← take .one) 0
    match o.number? with
    | some (.real x) =>
      let part := match name with
        | "floor" => Number.floorOf x
        | "ceil" => Number.ceilingOf x
        | _ => Number.wholePart x
      pure (some (.int (← ofNumberResult part)))
    | some (.whole i) => pure (some (.int i))
    | _ =>
      if name = "trunc" then
        typeError s!"type {← kindName o} doesn't define __trunc__ method"
      typeError s!"must be real number, not {← kindName o}"
  | "isnan" => do
    pure (some (.bool (← realArgument (argument (← take .one) 0)).isNaN))
  | "isinf" => do
    pure (some (.bool (← realArgument (argument (← take .one) 0)).isInf))
  | "isfinite" => do
    pure (some (.bool (← realArgument (argument (← take .one) 0)).isFinite))
  | "log" => do
    let args ← take (.positional 1 2)
    let x ← realArgument (argument args 0)
    if x ≤ 0.0 then valueError "math domain error"
    match argument? args 1 with
    | none => pure (some (.float x.log))
    | some base =>
      let base ← realArgument base
      if base ≤ 0.0 then valueError "math domain error"
      if base == 1.0 then raise "ZeroDivisionError" "float division by zero"
      pure (some (.float (x.log / base.log)))
  | "atan2" | "pow" | "fmod" | "copysign" => do
    let args ← take (.positional 2 2)
    let x ← realArgument (argument args 0)
    let y ← realArgument (argument args 1)
    let result := match name with
      | "atan2" => Float.atan2 x y
      | "pow" => Float.pow x y
      | "fmod" => Number.floatRemainder x y
      | _ => Number.withSign x.abs y
    some <$> checkedReal name [x, y] result
  | "hypot" => do
    let xs ← given.values.mapM realArgument
    pure (some (.float (xs.foldl (fun sum x => sum + x * x) 0.0).sqrt))
  | "gcd" => do
    let numbers ← given.values.mapM demandInt
    let divisor := numbers.foldl (fun (n : Nat) i => Nat.gcd n i.natAbs) 0
    pure (some (.int divisor))
  | "lcm" => do
    let numbers ← given.values.mapM demandInt
    let multiple := numbers.foldl (fun (n : Nat) i => Nat.lcm n i.natAbs) 1
    pure (some (.int multiple))
  | "factorial" => do
    let o := argument (← take .one) 0
    let n ← countArgument "factorial() not defined for negative values" o
    if maxFactorial < n then raise "MemoryError" ""
    pure (some (.int (factorial n)))
  | "isqrt" => do
    let o := argument (← take .one) 0
    let n ← countArgument "isqrt() argument must be nonnegative" o
    pure (some (.int (if n = 0 then 0 else wholeRoot (Nat.log2 n + 10) n (2 * n))))
  | "comb" | "perm" => do
    let args ← take (.positional (if name = "comb" then 2 else 1) 2)
    let n ← countArgument "n must be a non-negative integer" (argument args 0)
    let k ← match argument? args 1 with
      | some o => countArgument "k must be a non-negative integer" o
      | none => pure n
    if maxFactorial < k then raise "MemoryError" ""
    let rows := if n < k then 0 else fallingProduct n k
    pure (some (.int (if name = "comb" then rows / factorial k else rows)))
  | "prod" => do
    let args ← (Calling.named 1 1 ["", "start"]).take name name given
    let items ← elements engine (argument args 0)
    some <$> items.foldlM (combine engine .times) ((argument? args 1).getD (.int 1))
  | _ => pure none

/-! ### Documents -/

/-- The members of a document in the order of their names, level by level. -/
def sortedDocument : Json → Json
  | .object members =>
    .object ((members.map fun e => (e.1, e.2)).mergeSort fun a b => decide (a.1 ≤ b.1))
  | d => d

/-- A value as a document. -/
def writeDocument (engine : Engine) (given : ArgumentList Object) : Evaluation Object := do
  let admitted := ["obj", "skipkeys", "ensure_ascii", "check_circular", "allow_nan", "cls",
    "indent", "separators", "default", "sort_keys"]
  let named (name : String) : Object := (given.named.lookup name).getD .none
  if let some (other, _) := given.named.find? fun e => !admitted.contains e.1 then
    typeError s!"JSONEncoder.__init__() got an unexpected keyword argument '{other}'"
  match given.values, given.named.lookup "obj" with
  | [o], none | [], some o => do
    let d ← jsonOf o
    let isSorted ← truth engine (named "sort_keys")
    let isPlain := (given.named.lookup "ensure_ascii").isSome
    let spelling : Json.Spelling ←
      if isPlain then do
        pure (if ← truth engine (named "ensure_ascii") then .ascii else .plain)
      else pure .ascii
    let d := if isSorted then sortedDocument d else d
    match (named "indent").int?, named "separators" with
    | some 2, _ => pure (.text (d.indented spelling 0))
    | _, .tuple [.fixed (.text ","), .fixed (.text ":")] => pure (.text d.dense)
    | _, _ => pure (.text (d.compact spelling))
  | [], none => typeError "dumps() missing 1 required positional argument: 'obj'"
  | several, _ =>
    typeError (s!"dumps() takes 1 positional argument but {several.length} " ++
      "were given")

/-- The value of a document. -/
def readDocument (o : Object) : Evaluation Object := do
  let text ← match o.text?, ← bytesOf? o with
    | some s, _ => pure s
    | none, some bs => pure (String.ofList (Charset.Utf8.decode bs))
    | none, none =>
      typeError s!"the JSON object must be str, bytes or bytearray, not {← kindName o}"
  match Json.read? text with
  | some d => ofJson d
  | none => raise "JSONDecodeError" "Expecting value: line 1 column 1 (char 0)"

/-! ### Types -/

/-- What a type with arguments was made of, as far as it has arguments. -/
def originObject (t : TypeExpr) : Evaluation Object := do
  match t with
  | .applied _ _ | .union _ | .literal _ | .unpacked _ => memberOf (.fixed t) "__origin__"
  | .bare head => if head.isSpecial then pure .none else memberOf (.fixed t) "__origin__"
  | .annotated _ _ => pure (.fixed (typingClass "Annotated"))
  | .bars _ => pure (classOfPackage "types" "UnionType")
  | .cls c =>
    pure (if c.package = "typing" && c.name = "Generic" then .fixed t else .none)
  | _ => pure .none

/-- The arguments of a type. Those of a function stand in a row of their own. -/
def argumentObjects (t : TypeExpr) : Evaluation Object := do
  match t with
  | .annotated base markers =>
    let notes := markers.map fun
      | .note s => Object.text s
      | m => .fixed (.other { kind := "object", name := none, text := m.shown })
    pure (.tuple ((← Object.ofType base) :: notes))
  | .applied head args =>
    match args.reverse with
    | result :: front =>
      let isFlat := head.name != "Callable" || (args.length = 2 && args.any TypeExpr.isDots)
      if isFlat then typeTuple args
      else do
        let row ← makeList (← Object.ofTypes front.reverse)
        pure (.tuple [row, ← Object.ofType result])
    | [] => pure (.tuple [])
  | .union _ | .literal _ | .unpacked _ | .bars _ => memberOf (.fixed t) "__args__"
  | _ => pure (.tuple [])

/-- What a function that asks about types does. -/
def callTyping (name : String) (given : ArgumentList Object) : Evaluation (Option Object) := do
  let parameters (names : List String) : List SignatureParameter :=
    names.map fun n => { name := n }
  let take (names : List String) : Evaluation (List Object) := do
    let valueOf : Bound Object → Option Object
      | .given o => some o
      | _ => none
    match Signature.bind (parameters names) given with
    | .ok bound => pure (bound.filterMap fun e => valueOf e.2)
    | .error e => typeError (e.message name)
  match name with
  | "cast" => do pure ((← take ["typ", "val"])[1]?)
  | "assert_type" => do pure (← take ["val", "typ"]).head?
  | "final" | "overload" | "no_type_check" | "runtime_checkable" => do
    pure (← take ["f"]).head?
  | "get_origin" => do
    match (← take ["tp"]).headD .none with
    | .fixed t => some <$> originObject t
    | _ => pure (some .none)
  | "get_args" => do
    match (← take ["tp"]).headD .none with
    | .fixed t => some <$> argumentObjects t
    | _ => pure (some (.tuple []))
  | _ => pure none

/-! ### Calls -/

/-- The sum of a row in a wide sense: a function is called with what it made last and the next
element. -/
def reduceRow (engine : Engine) (given : ArgumentList Object) : Evaluation Object := do
  let args ← (Calling.positional 2 3).take "reduce" "reduce" given
  let items ← elements engine (argument args 1)
  match argument? args 2, items with
  | none, [] => typeError "reduce() of empty iterable with no initial value"
  | start, items =>
    let all := start.toList ++ items
    (all.drop 1).foldlM (fun made o => engine.call (argument args 0) { values := [made, o] })
      (all.headD .none)

/-- A call of a function of a module. -/
def callModuleFunction (engine : Engine) (kind module name : String)
    (given : ArgumentList Object) : Evaluation Object := do
  let found ← match module, name with
    | "operator", _ => do
      let args ← (operatorFunctionCalling name).take s!"operator.{name}" name given
      callOperatorFunction engine name args
    | "math", _ => callMath engine name given
    | "json", "dumps" => some <$> writeDocument engine given
    | "json", "loads" => some <$> readDocument (given.values.headD .none)
    | "typing", _ => callTyping name given
    | "functools", "reduce" => some <$> reduceRow engine given
    | "copy", "copy" | "copy", "deepcopy" => do
      some <$> Object.ofType (← frozen (given.values.headD .none))
    | "urllib.parse", "quote" => do
      let s ← demandText "quote_from_bytes() expected bytes" (given.values.headD .none)
      let parts := (s.splitOn "/").map Percent.quote
      pure (some (.text ("/".intercalate parts)))
    | "urllib.parse", "unquote" => do
      let s ← demandText "a text is needed" (given.values.headD .none)
      pure (some (.text (Percent.unquote s)))
    | "sys", "getdefaultencoding" | "sys", "getfilesystemencoding" => pure (some (.text "utf-8"))
    | "sys", "getrecursionlimit" => pure (some (.int 1000))
    | "sys", "intern" => pure given.values.head?
    | "sys", "exit" => do
      let code := given.values.headD .none
      if code.isNone then raise "SystemExit" ""
      raise "SystemExit" (← plainText code)
    | _, _ => pure none
  match found with
  | some o => pure o
  | none => throw (.notCallable kind)

end HttpInterface.Predefined
