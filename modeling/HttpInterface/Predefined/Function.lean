import HttpInterface.Predefined.Construction
import HttpInterface.Predefined.NumberMember

/-!
# `HttpInterface.Predefined.Function`: what the predefined functions do

The functions that every text may call: they ask for lengths, sums, members and classes
of values, put values in order, and turn them into texts.
-/

set_option autoImplicit false

namespace HttpInterface.Predefined

open Evaluation

/-- How a predefined function takes its arguments. -/
def functionCalling : String → Calling
  | "abs" | "all" | "any" | "ascii" | "bin" | "callable" | "chr" | "hash" | "hex" | "id" | "len"
  | "oct" | "ord" | "repr" | "aiter" => .one
  | "divmod" | "hasattr" | "isinstance" | "issubclass" | "delattr" => .positional 2 2
  | "setattr" => .positional 3 3
  | "dir" | "vars" => .positional 0 1
  | "anext" => .positional 1 2
  | "__import__" => .named 1 5 ["name", "globals", "locals", "fromlist", "level"]
  | "getattr" => .positional 2 3
  | "iter" | "next" | "format" => .positional 1 2
  | "eval" | "exec" => .positional 1 3
  | "pow" => .named 2 3 ["base", "exp", "mod"]
  | "round" => .named 1 2 ["number", "ndigits"]
  | "sum" => .named 1 2 ["", "start"]
  | "globals" | "locals" => .nothing
  | _ => .any

/-- A whole number in a base, with the mark of the base. -/
def wholeInBase (base : Nat) (mark : String) (o : Object) : Evaluation Object := do
  let i ← demandInt o
  let sign := if i < 0 then "-" else ""
  pure (.text (sign ++ mark ++ String.ofList (Nat.toDigits base i.natAbs)))

/-- The character of a code. -/
def characterOf (o : Object) : Evaluation Object := do
  let i ← demandInt o
  if 2147483647 < i || i < -2147483648 then
    raise "OverflowError" (if i.natAbs ≤ maxPosition then
      (if i < 0 then "signed integer is less than minimum" else
        "signed integer is greater than maximum")
      else "Python int too large to convert to C long")
  if i < 0 || 0x110000 ≤ i then valueError "chr() arg not in range(0x110000)"
  pure (.text (String.singleton (Char.ofNat i.toNat)))

/-- The code of a character. -/
def codeOf (o : Object) : Evaluation Object := do
  let wrong (kind : String) (length : Nat) : Evaluation Object :=
    typeError s!"ord() expected a character, but {kind} of length {length} found"
  match o.text?, ← bytesOf? o with
  | some s, _ =>
    match s.toList with
    | [c] => pure (.int c.toNat)
    | cs => wrong "string" cs.length
  | none, some bs =>
    match bs with
    | [b] => pure (.int b.toNat)
    | bs => wrong "string" bs.length
  | none, none =>
    typeError s!"ord() expected string of length 1, but {← kindName o} found"

/-- The greatest or the least of some values. -/
def extreme (engine : Engine) (test : Comparison) (key : Object) (items : List Object) :
    Evaluation (Option Object) := do
  let keyOf (o : Object) : Evaluation Object :=
    if key.isNone then pure o else engine.call key { values := [o] }
  match items with
  | [] => pure none
  | first :: rest =>
    let best ← rest.foldlM (fun (best : Object × Object) o => do
      let k ← keyOf o
      if ← compare engine test k best.1 then pure (k, o) else pure best) (← keyOf first, first)
    pure (some best.2)

/-- The greatest or the least of a row, or of several values. -/
def callExtreme (engine : Engine) (name : String) (args : ArgumentList Object) :
    Evaluation Object := do
  let test : Comparison := if name = "max" then .greater else .less
  if args.values.isEmpty then typeError s!"{name} expected at least 1 argument, got 0"
  if let some (other, _) := args.named.find? fun e => e.1 != "key" && e.1 != "default" then
    typeError s!"'{other}' is an invalid keyword argument for {name}()"
  let key := (args.named.lookup "key").getD .none
  let usual := args.named.lookup "default"
  match args.values with
  | [row] =>
    match ← extreme engine test key (← elements engine row), usual with
    | some o, _ => pure o
    | none, some o => pure o
    | none, none => valueError s!"{name}() arg is an empty sequence"
  | several =>
    if usual.isSome then
      typeError s!"Cannot specify a default for {name}() with multiple positional arguments"
    pure ((← extreme engine test key several).getD .none)

/-- The items of a value in order. -/
def callSorted (engine : Engine) (args : ArgumentList Object) : Evaluation Object := do
  if args.values.length ≠ 1 then
    typeError s!"sorted expected 1 argument, got {args.values.length}"
  let items ← elements engine (args.values.headD .none)
  if let some (other, _) := args.named.find? fun e => e.1 != "key" && e.1 != "reverse" then
    typeError s!"'{other}' is an invalid keyword argument for sort()"
  let named (name : String) : Object := (args.named.lookup name).getD .none
  makeList (← sortedBy engine (named "key") (named "reverse") items)

/-- The sum of some values. -/
def sumOf (engine : Engine) (args : List (Option Object)) : Evaluation Object := do
  let start := (argument? args 1).getD (.int 0)
  if start.text?.isSome then
    typeError "sum() can't sum strings [use ''.join(seq) instead]"
  if (← bytesOf? start).isSome then
    typeError s!"sum() can't sum {← kindName start} [use b''.join(seq) instead]"
  (← elements engine (argument args 0)).foldlM (combine engine .plus) start

/-- A power, perhaps modulo a number. -/
def powerOf (engine : Engine) (args : List (Option Object)) : Evaluation Object := do
  let base := argument args 0
  let exponent := argument args 1
  let modulus := argument args 2
  if modulus.isNone then combine engine .power base exponent
  else
    match base.int?, exponent.int?, modulus.int? with
    | some i, some j, some m => wholePowerModulo i j m
    | _, _, _ =>
      let numbers := [base, exponent, modulus].filterMap Object.number?
      let isReal : Number → Bool
        | .real _ => true
        | _ => false
      if numbers.any isReal then
        typeError "pow() 3rd argument not allowed unless all arguments are integers"
      if numbers.any (fun n => n.kindName = "complex") && base.number?.isSome &&
          exponent.number?.isSome then
        valueError "complex modulo"
      typeError (s!"unsupported operand type(s) for ** or pow(): '{← kindName base}', " ++
        s!"'{← kindName exponent}', '{← kindName modulus}'")

/-- A number rounded. -/
def roundOf (o : Object) (places : Option Object) : Evaluation Object := do
  match o.number? with
  | some (.whole i) => callWhole i "__round__" (if places.any Object.isNone then [] else [places])
  | some (.real x) => callReal x "__round__" [places]
  | _ => typeError s!"type {← kindName o} doesn't define __round__ method"

/-- The name of a member among the arguments. -/
def memberName (o : Object) : Evaluation String := do
  match o.text? with
  | some s => pure s
  | none => typeError s!"attribute name must be string, not '{← kindName o}'"

/-- A value can be called. -/
def isCallable (o : Object) : Evaluation Bool := do
  match o, ← cellOf? o with
  | .predefined _, _ | .moduleFunction _ _ _, _ => pure true
  | .memberOfClass owner name, _ =>
    pure (match findMember? owner name with
      | some (_, .method) | some (_, .operator) => true
      | _ => false)
  | .fixed t, _ =>
    pure (t.isClass || (t.isForm && !t matches .typeVar _ | .deferred _) ||
      match t with
      | .applied _ _ => true
      | .other thing => ["function", "builtin_function_or_method", "method", "method-wrapper",
          "method_descriptor", "wrapper_descriptor"].contains thing.kind
      | _ => false)
  | _, some (.closure _) | _, some (.written _) | _, some (.bound _ _ _)
  | _, some (.boundFunction _ _) | _, some (.madeClass _ _ _) => pure true
  | _, some (.wrapped kind _) => pure (kind = "staticmethod")
  | _, some (.instance cls _) => do pure (← inheritedMember? cls "__call__").isSome
  | _, _ => pure false

/-- An iterator over a value, or over what a function gives. -/
def iterOf (args : List (Option Object)) : Evaluation Object := do
  match argument? args 1 with
  | none => iterator (argument args 0)
  | some sentinel =>
    if !(← isCallable (argument args 0)) then typeError "iter(v, w): v must be callable"
    make (.iterator "callable_iterator" (.called (argument args 0) sentinel))

/-- Changes what a class holds. The predefined classes cannot be changed. -/
def changeClassMembers (c : Object) (name : String)
    (change : List (String × Object) → List (String × Object)) : Evaluation Unit := do
  match c, className? c, ← cellOf? c with
  | .stored place, _, some (.madeClass own bases members) =>
    write place (.madeClass own bases (change members))
  | _, some d, _ =>
    if d.package.isEmpty then
      typeError s!"cannot set '{name}' attribute of immutable type '{d.name}'"
    let store ← get
    let changed := (store.classes.zip store.classMembers).map fun e =>
      if e.1.className.isSame d then change e.2 else e.2
    set { store with classMembers := changed }
  | _, _, _ => pure ()

/-- Says that a member of a value cannot be changed. -/
def refuseChange (o : Object) (name : String) : Evaluation Object := do
  let kind ← kindName o
  if (← attempt? "AttributeError" (memberOf o name)).isNone then throw (.noMember kind name)
  match findMember? kind name with
  | some (_, .attribute) =>
    raise "AttributeError" s!"attribute '{name}' of '{kind}' objects is not writable"
  | some (_, .field) => raise "AttributeError" "readonly attribute"
  | _ => raise "AttributeError" s!"'{kind}' object attribute '{name}' is read-only"

/-- Gives a value of a class a member. -/
def setMember (o : Object) (name : String) (value : Object) : Evaluation Object := do
  match o, ← cellOf? o with
  | .stored place, some (.instance cls attributes) =>
    if className? cls == some .object then
      throw (.noMember "object" name)
    write place (.instance cls (attributes.filter (fun e => e.1 != name) ++ [(name, value)]))
    pure .none
  | .stored place, some (.error cls base args attributes) =>
    let others := attributes.filter fun e => e.1 != name
    write place (.error cls base args (others ++ [(name, value)]))
    pure .none
  | _, _ =>
    if ← isClass o then
      changeClassMembers o name fun members =>
        if (members.lookup name).isSome then
          members.map fun e => if e.1 = name then (name, value) else e
        else members ++ [(name, value)]
      return .none
    refuseChange o name

/-- Takes a member away from a value. -/
def deleteMember (o : Object) (name : String) : Evaluation Object := do
  let without (attributes : List (String × Object)) : Evaluation (List (String × Object)) := do
    if (attributes.lookup name).isNone then
      raise "AttributeError" s!"'{← kindName o}' object has no attribute '{name}'"
    pure (attributes.filter fun e => e.1 != name)
  match o, ← cellOf? o with
  | .stored place, some (.instance cls attributes) =>
    write place (.instance cls (← without attributes))
    pure .none
  | .stored place, some (.error cls base args attributes) =>
    write place (.error cls base args (← without attributes))
    pure .none
  | _, _ =>
    if ← isClass o then
      let own ← match className? o, ← cellOf? o with
        | some c, _ => ownMembers c
        | none, some (.madeClass _ _ members) => pure members
        | none, _ => pure []
      if (own.lookup name).isNone && !(className? o).any fun c => c.package.isEmpty then
        raise "AttributeError" s!"type object '{← nameOf o}' has no attribute '{name}'"
      changeClassMembers o name fun members => members.filter fun e => e.1 != name
      return .none
    refuseChange o name

/-! ### What values hold -/

/-- The names of the members of a value, in order. -/
def listedNames (o : Object) : Evaluation (List String) := do
  let ofClass (c : Object) : Evaluation (List String) := do
    pure (← (← lineage maxLineage c).mapM heldNames).flatten
  let own : List (String × Object) → List String := fun attributes =>
    (attributes.map Prod.fst).filter fun name => !isHiddenName name
  let names ←
    if ← isClass o then ofClass o
    else do
      let above ← ofClass (← classOf o)
      let attributes := match o, ← cellOf? o with
        | _, some (.instance _ attributes) | _, some (.error _ _ _ attributes) => own attributes
        | _, some (.written f) => f.attributes.map Prod.fst
        | .fixed (.other { kind := "module", name := some module, .. }), _ => moduleNames module
        | _, _ => []
      match o with
      | .fixed (.other { kind := "module", .. }) => pure attributes
      | _ => pure (above ++ attributes)
  pure ((names.mergeSort fun a b => decide (a ≤ b)).eraseDups)

/-- The name of a module. -/
def demandName (o : Object) : Evaluation String := do
  match o.text? with
  | some s => pure s
  | none => typeError "module name must be a string"

/-- A module by its name, or the outermost of the modules around it. -/
def importModule (isInner : Bool) (o : Object) : Evaluation Object := do
  let name ← demandName o
  if name.isEmpty then valueError "Empty module name"
  let top := String.ofList (name.toList.takeWhile (· != '.'))
  if top.isEmpty then raise "ModuleNotFoundError" s!"No module named '{name}'"
  if !isModule top then raise "ModuleNotFoundError" s!"No module named '{top}'"
  let name := if name = "os.path" then innerModule "os" "path" else name
  if name != top && name != "posixpath" && !isModule name then
    let missing := s!"No module named '{name}'"
    if packageNames.contains top then raise "ModuleNotFoundError" missing
    raise "ModuleNotFoundError" (missing ++ s!"; '{top}' is not a package")
  pure (moduleObject (if isInner then name else top))

/-! ### Functions that classes decide -/

/-- The members with special names that functions of one value ask for. -/
def askedMembers : List (String × String) :=
  [("len", "__len__"), ("abs", "__abs__"), ("repr", "__repr__"), ("hash", "__hash__"),
   ("iter", "__iter__"), ("next", "__next__"), ("format", "__format__"),
   ("round", "__round__"), ("dir", "__dir__"), ("divmod", "__divmod__")]

/-- Checks what a member with a special name gives. -/
def checkAnswer (name : String) (answer : Object) : Evaluation Unit := do
  let kind ← kindName answer
  match name with
  | "len" =>
    match answer.int? with
    | none => typeError s!"'{kind}' object cannot be interpreted as an integer"
    | some i => if i < 0 then valueError "__len__() should return >= 0"
  | "repr" => if answer.text?.isNone then typeError s!"__repr__ returned non-string (type {kind})"
  | "format" =>
    if answer.text?.isNone then typeError s!"__format__ must return a str, not {kind}"
  | "hash" => if answer.int?.isNone then typeError "__hash__ method should return an integer"
  | "iter" =>
    let isIterator := match ← cellOf? answer with
      | some (.iterator _ _) => true
      | _ => false
    if !isIterator && !(← hasSpecial answer "__next__") then
      typeError s!"iter() returned non-iterator of type '{kind}'"
  | _ => pure ()

/-- What a function makes of a value whose class decides it. -/
def askSpecial? (engine : Engine) (name : String) (values : List Object) :
    Evaluation (Option Object) := do
  match askedMembers.lookup name, values with
  | some special, o :: rest =>
    let rest := if name = "format" && rest.isEmpty then [.text ""] else rest
    let isNext := name = "next" && !rest.isEmpty
    let ask := special? engine o special (if isNext then [] else rest)
    if !(← hasSpecial o special) then return none
    let answer ← if isNext then attempt? "StopIteration" ask else some <$> ask
    match answer with
    | none => pure rest.head?
    | some none => pure none
    | some (some answer) => do
      checkAnswer name answer
      pure (some answer)
  | _, _ => pure none

/-- The functions that look at their arguments as they are. -/
def lookingFunctions : List String :=
  ["isinstance", "issubclass", "id", "getattr", "hasattr", "setattr", "delattr", "vars", "dir",
   "callable", "repr", "ascii", "print", "sorted", "max", "min", "iter", "next", "map", "sum"]

/-- What a predefined function makes of its arguments. -/
def callFunction (engine : Engine) (name : String) (given : ArgumentList Object) :
    Evaluation Object := do
  if given.named.isEmpty then
    if let some o ← askSpecial? engine name given.values then return o
  let given ←
    if lookingFunctions.contains name then pure given
    else do pure { given with values := ← given.values.mapM plain }
  let args ← (functionCalling name).take name name given
  let first := argument args 0
  let second := argument args 1
  match name with
  | "abs" => absolute first
  | "all" => do
    let isFalse (o : Object) : Evaluation Bool := do pure !(← truth engine o)
    pure (.bool !(← anyElement engine isFalse maxElements (← iterator first)))
  | "any" => do .bool <$> anyElement engine (truth engine) maxElements (← iterator first)
  | "ascii" => .text <$> inForm .ascii first
  | "repr" => .text <$> shownText first
  | "bin" => wholeInBase 2 "0b" first
  | "oct" => wholeInBase 8 "0o" first
  | "hex" => wholeInBase 16 "0x" first
  | "callable" => .bool <$> isCallable first
  | "chr" => characterOf first
  | "ord" => codeOf first
  | "hash" => hashOf first
  | "len" => lengthOf first
  | "divmod" => divideWithRest first second
  | "pow" => powerOf engine args
  | "round" => roundOf first (argument? args 1)
  | "sum" => sumOf engine args
  | "max" | "min" => callExtreme engine name given
  | "sorted" => callSorted engine given
  | "isinstance" => .bool <$> isInstanceOf first second
  | "issubclass" => .bool <$> testClass .isSubclass first second
  | "iter" => iterOf args
  | "next" =>
    match argument? args 1 with
    | none => nextOf engine first
    | some usual => do pure ((← attempt? "StopIteration" (nextOf engine first)).getD usual)
  | "format" =>
    let layout ← match argument? args 1 with
      | some o => demandTextAt "format() argument 2" o
      | none => pure ""
    .text <$> layObject layout first
  | "getattr" => do
    let name ← memberName second
    match argument? args 2 with
    | none => memberWith engine first name
    | some usual => do
      pure ((← attempt? "AttributeError" (memberWith engine first name)).getD usual)
  | "hasattr" => do
    let name ← memberName second
    pure (.bool (← attempt? "AttributeError" (memberWith engine first name)).isSome)
  | "setattr" => do setMember first (← memberName second) (argument args 2)
  | "delattr" => do deleteMember first (← memberName second)
  | "dir" =>
    match argument? args 0 with
    | some o => do makeList ((← listedNames o).map Object.text)
    | none => do
      let names := (← entries? (.stored (← get).globals)).getD []
      makeList (((names.filterMap fun e => e.1.text?).mergeSort fun a b => decide (a ≤ b)).map
        Object.text)
  | "vars" =>
    match argument? args 0 with
    | some o =>
      match ← dictOf? o with
      | some dict => pure dict
      | none => typeError "vars() argument must have __dict__ attribute"
    | none => do pure (.stored (← get).globals)
  | "__import__" => do
    let isInner ← truth engine (argument args 3)
    let level ← countOr 0 (argument? args 4)
    if level < 0 then valueError "level must be >= 0"
    if 0 < level then
      raise "ImportError" "attempted relative import with no known parent package"
    importModule isInner first
  | "open" => do
    raise "FileNotFoundError" s!"[Errno 2] No such file or directory: {← shownText first}"
  | "aiter" => typeError s!"'{← kindName first}' object is not an async iterable"
  | "anext" => typeError s!"'{← kindName first}' object is not an async iterator"
  | "globals" | "locals" => do pure (.stored (← get).globals)
  | "print" =>
    match given.named.find? fun e => !(["sep", "end", "file", "flush"].contains e.1) with
    | some (other, _) => typeError s!"'{other}' is an invalid keyword argument for print()"
    | none => pure .none
  | name => pure (.fixed (.other { kind := name, name := none, text := s!"<{name}>" }))

end HttpInterface.Predefined
