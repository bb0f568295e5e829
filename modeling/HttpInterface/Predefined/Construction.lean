import HttpInterface.Number.Read
import HttpInterface.Predefined.BytesMember
import HttpInterface.Predefined.OperatorMember
import HttpInterface.Predefined.Reply
import HttpInterface.Predefined.UrlMember

/-!
# `HttpInterface.Predefined.Construction`: what a class makes of its arguments

A class is called to make a value of it. The classes of numbers, texts and collections
make one of another value, or an empty one of nothing. A class of errors keeps its
arguments as they are.
-/

set_option autoImplicit false

namespace HttpInterface.Predefined

open Evaluation

/-! ### Numbers -/

/-- What is said of a text that is no whole number. -/
def noWholeMessage (base : Int) (shown : String) : String :=
  s!"invalid literal for int() with base {base}: {shown}"

/-- A text with too many digits for a whole number. -/
def hasTooManyDigits (base : Nat) (cs : List Char) : Bool :=
  !([2, 4, 8, 16, 32].contains base) && Text.maxDigits < cs.countP Text.isDecimalDigit

/-- The whole number of a text in a base. -/
def wholeOfText (base : Int) (shown : String) (cs : List Char) : Evaluation Object := do
  let number := Number.readWhole? base.toNat cs
  if number.isSome && hasTooManyDigits base.toNat cs then
    let count := cs.countP Text.isDecimalDigit
    valueError (s!"Exceeds the limit ({Text.maxDigits} digits) for integer string conversion: " ++
      s!"value has {count} digits; use sys.set_int_max_str_digits() to increase the limit")
  match number with
  | some i => pure (.int i)
  | none => valueError (noWholeMessage base (String.ofList (shown.toList.take 200)))

/-- The characters of a text or of bytes that stand for a number. -/
def literal? (o : Object) : Evaluation (Option (List Char)) := do
  match o.text?, ← bytesOf? o with
  | some s, _ => pure (some s.toList)
  | none, some bs => pure (some (Format.bytesAsChars bs))
  | none, none => pure none

/-- A whole number. -/
def makeWhole (args : List (Option Object)) : Evaluation Object := do
  let base ← match argument? args 1 with
    | none => pure none
    | some o => do
      let base ← demandInt o
      if base ≠ 0 && (base < 2 || 36 < base) then
        valueError "int() base must be >= 2 and <= 36, or 0"
      pure (some base)
  match argument? args 0, base with
  | none, none => pure (.int 0)
  | none, some _ => typeError "int() missing string argument"
  | some o, base =>
    match ← literal? o, base with
    | some cs, base =>
      let shown := match ← bytesOf? o with
        | some bs => Text.quotedBytes bs
        | none => Text.quoted (String.ofList cs)
      wholeOfText (base.getD 10) shown cs
    | none, some _ => typeError "int() can't convert non-string with explicit base"
    | none, none =>
      match o.number? with
      | some (.whole i) => pure (.int i)
      | some (.real x) => .int <$> ofNumberResult (Number.wholePart x)
      | _ => throw (.noNumber "int" (← kindName o))

/-- A double. -/
def makeReal (args : List (Option Object)) : Evaluation Object := do
  match argument? args 0 with
  | none => pure (.float 0.0)
  | some o =>
    match ← literal? o with
    | some cs =>
      match Decimal.readFloat? (String.ofList cs) with
      | some x => pure (.float x)
      | none => valueError s!"could not convert string to float: {← shownText o}"
    | none =>
      match o.number? with
      | some (.complex _ _) | none => throw (.noNumber "float" (← kindName o))
      | some n =>
        if n.exceedsFloat then raise "OverflowError" "int too large to convert to float"
        pure (.float (n.toFloat?.getD 0.0))

/-- A complex number. -/
def makeComplex (args : List (Option Object)) : Evaluation Object := do
  let real? := argument? args 0
  let imaginary? := argument? args 1
  if let some s := real?.bind Object.text? then
    if imaginary?.isSome then typeError "complex() can't take second arg if first is a string"
    match Number.readComplex? s.toList with
    | some (re, im) => return .number (.complex re im)
    | none => valueError "complex() arg is a malformed string"
  if (imaginary?.bind Object.text?).isSome then
    typeError "complex() second arg can't be a string"
  let first := real?.getD (.int 0)
  let second := imaginary?.getD (.int 0)
  match first.number?, second.number? with
  | some m, some n =>
    if m.exceedsFloat || n.exceedsFloat then
      raise "OverflowError" "int too large to convert to float"
    let front := m.parts
    let back := n.parts
    let isComplex : Number → Bool
      | .complex _ _ => true
      | _ => false
    let re := if isComplex n then front.1 - back.2 else front.1
    let im :=
      if imaginary?.isNone then front.2
      else if isComplex m then back.1 + front.2
      else back.1
    pure (.number (.complex re im))
  | none, _ =>
    typeError ("complex() first argument must be a string or a number, not " ++
      s!"'{← kindName first}'")
  | _, none =>
    typeError s!"complex() second argument must be a number, not '{← kindName second}'"

/-! ### Texts and bytes -/

/-- A text. -/
def makeText (args : List (Option Object)) : Evaluation Object := do
  match argument? args 0, argument? args 1, argument? args 2 with
  | none, _, _ => pure (.text "")
  | some o, none, none => .text <$> plainText o
  | some o, charset, errors => do
    let named (given : Option Object) (parameter usual : String) : Evaluation String :=
      match given with
      | some o => demandTextAt s!"str() argument '{parameter}'" o
      | none => pure usual
    let charset ← named charset "encoding" "utf-8"
    let errors ← named errors "errors" "strict"
    match o.text?, ← bytesOf? o with
    | some _, _ => typeError "decoding str is not supported"
    | none, some bs => decodeBytes bs charset errors
    | none, none =>
      typeError s!"decoding to str: need a bytes-like object, {← kindName o} found"

/-- Bytes. -/
def makeBytes (engine : Engine) (args : List (Option Object)) (isFixed : Bool) :
    Evaluation Object := do
  let kind := if isFixed then "bytes" else "bytearray"
  let given := argument? args 0
  let demanded (i : Nat) (parameter : String) : Evaluation (Option String) :=
    (argument? args i).mapM (demandTextAt s!"{kind}() argument '{parameter}'")
  let charset ← demanded 1 "encoding"
  let errors ← demanded 2 "errors"
  match given, charset, errors with
  | none, none, none => ofBytes isFixed []
  | some o, some _, _ =>
    match o.text? with
    | none => typeError "encoding without a string argument"
    | some s =>
      match (← encodeText s (args.drop 1)).bytes? with
      | some bs => ofBytes isFixed bs
      | none => ofBytes isFixed []
  | none, some _, _ => typeError "encoding without a string argument"
  | none, none, some _ => typeError "errors without a string argument"
  | some o, none, some _ =>
    if o.text?.isSome then typeError "string argument without an encoding"
    typeError "errors without a string argument"
  | some o, none, none =>
    if o.text?.isSome then typeError "string argument without an encoding"
    match ← bytesOf? o, o.int? with
    | some bs, _ => ofBytes isFixed bs
    | none, some count =>
      if count < 0 then valueError "negative count"
      if maxPosition < count.toNat then
        raise "OverflowError" noPositionMessage
      if maxRepeated < count.toNat then raise "MemoryError" ""
      ofBytes isFixed (List.replicate count.toNat 0)
    | none, none =>
      match ← elements? engine o with
      | some items =>
        let message :=
          if isFixed then "bytes must be in range(0, 256)" else "byte must be in range(0, 256)"
        ofBytes isFixed (← bytesOfNumbers message items)
      | none => typeError s!"cannot convert '{← kindName o}' object to {kind}"

/-- The bytes of a value as they are seen in it. -/
def makeMemory (o : Object) : Evaluation Object := do
  match ← bytesOf? o, ← cellOf? o with
  | _, some (.memory source positions) => make (.memory source positions)
  | some bs, _ => make (.memory o (List.range bs.length))
  | none, _ => typeError s!"memoryview: a bytes-like object is required, not '{← kindName o}'"

/-! ### Ranges, slices and iterators -/

/-- A range. -/
def makeRange (args : List (Option Object)) : Evaluation Object := do
  let numbers ← args.mapM fun o => demandInt (o.getD .none)
  match numbers with
  | [stop] => make (.range 0 stop 1)
  | [start, stop] => make (.range start stop 1)
  | start :: stop :: step :: _ =>
    if step = 0 then valueError "range() arg 3 must not be zero"
    make (.range start stop step)
  | [] => make (.range 0 0 1)

/-- A slice. -/
def makeSlice (args : List (Option Object)) : Evaluation Object :=
  match args.map fun o => o.getD .none with
  | [stop] => make (.slice .none stop .none)
  | [start, stop] => make (.slice start stop .none)
  | start :: stop :: step :: _ => make (.slice start stop step)
  | [] => make (.slice .none .none .none)

/-- The elements of a value from its end on. -/
def makeReversed (o : Object) : Evaluation Object := do
  match o, ← cellOf? o with
  | _, some (.range start stop step) =>
    let count := rangeCount start stop step
    make (.iterator "range_iterator" (.range (start + step * ((count : Int) - 1)) (-step) count))
  | _, some (.list items) =>
    make (.iterator "list_reverseiterator" (.values items.toList.reverse))
  | _, some (.dict entries) =>
    make (.iterator "dict_reversekeyiterator" (.values (entries.map Prod.fst).reverse))
  | _, some (.view kind place) =>
    let names :=
      ["dict_reversekeyiterator", "dict_reversevalueiterator", "dict_reverseitemiterator"]
    let i := match kind with
      | .keys => 0
      | .values => 1
      | .items => 2
    make (.iterator (names.getD i "") (.values (← viewItems kind place).reverse))
  | _, some (.set _ _) | _, some (.iterator _ _) => refuse
  | .fixed (.applied _ _), _ | .fixed (.literal _), _ => refuse
  | _, _ =>
    match ← inside? o with
    | some (_, items) => make (.iterator "reversed" (.values items.reverse))
    | none => refuse
where
  refuse : Evaluation Object := do
    let kind ← kindName o
    if kind.startsWith "_" && kind != "_AnyMeta" then
      typeError s!"object of type '{kind}' has no len()"
    typeError s!"'{kind}' object is not reversible"

/-- The elements of several values side by side. -/
def makeZip (args : ArgumentList Object) : Evaluation Object := do
  if 1 < args.named.length then
    typeError s!"zip() takes at most 1 keyword argument ({args.named.length} given)"
  if let some (other, _) := args.named.find? fun e => e.1 != "strict" then
    typeError s!"'{other}' is an invalid keyword argument for zip()"
  let strict ← isTrue ((args.named.lookup "strict").getD .none)
  let sources ← args.values.mapM iterator
  make (.iterator "zip" (.zipped sources strict))

/-- What a function makes of the elements of several values. -/
def makeMap (args : ArgumentList Object) : Evaluation Object := do
  if !args.named.isEmpty then typeError "map() takes no keyword arguments"
  match args.values with
  | f :: first :: others =>
    make (.iterator "map" (.mapped f (← (first :: others).mapM iterator)))
  | _ => typeError "map() must have at least two arguments."

/-! ### Errors -/

/-- The classes of the errors of the operating system by their numbers. -/
def systemErrors : List (Int × String) :=
  [(1, "PermissionError"), (2, "FileNotFoundError"), (3, "ProcessLookupError"),
   (4, "InterruptedError"), (10, "ChildProcessError"), (11, "BlockingIOError"),
   (13, "PermissionError"), (17, "FileExistsError"), (20, "NotADirectoryError"),
   (21, "IsADirectoryError"), (32, "BrokenPipeError"), (103, "ConnectionAbortedError"),
   (104, "ConnectionResetError"), (108, "BrokenPipeError"), (110, "TimeoutError"),
   (111, "ConnectionRefusedError"), (114, "BlockingIOError"), (115, "BlockingIOError")]

/-- The whole number that an argument of an error has to be. -/
def checkNumber (o : Object) : Evaluation Unit := do
  let _ ← demandInt o

/-- Checks the arguments of an error about characters or bytes. -/
def checkCodingError (base : String) (args : List Object) : Evaluation Unit := do
  let names := codingMembers base
  if names.isEmpty then return
  if args.length ≠ names.length then
    typeError s!"function takes exactly {names.length} arguments ({args.length} given)"
  let isBytes := base = "UnicodeDecodeError"
  (names.zip args).zipIdx.forM fun ((name, o), i) => do
    if name = "start" || name = "end" then checkNumber o
    else if name != "object" || !isBytes then
      let _ ← demandTextAt s!"argument {i + 1}" o
  if isBytes then
    let o := args.getD 1 .none
    if (← bytesOf? o).isNone then
      typeError s!"a bytes-like object is required, not '{← kindName o}'"

/-- The arguments of an error about a place in a text; the place is a row of four or six. -/
def placeArgs (engine : Engine) : List Object → Evaluation (List Object)
  | [what, place] => do
    let items ← elements engine place
    if items.length < 4 then
      typeError s!"function takes at least 4 arguments ({items.length} given)"
    if 6 < items.length then
      typeError s!"function takes at most 6 arguments ({items.length} given)"
    if items.length = 5 then typeError "end_offset must be provided when end_lineno is provided"
    pure [what, .tuple items]
  | args => pure args

/-- The class of a group of errors, with the arguments checked. -/
def groupClass (engine : Engine) (base : String) (args : List Object) : Evaluation String := do
  if args.length ≠ 2 then
    typeError s!"BaseExceptionGroup.__new__() takes exactly 2 arguments ({args.length} given)"
  let _ ← demandTextAt "BaseExceptionGroup.__new__() argument 1" (args.headD .none)
  let given := args.getD 1 .none
  let isRow := match given, ← cellOf? given with
    | .tuple _, _ | _, some (.list _) => true
    | o, _ => o.text?.isSome || o.bytes?.isSome
  if !isRow then typeError "second argument (exceptions) must be a sequence"
  let inner ← elements engine given
  if inner.isEmpty then
    valueError "second argument (exceptions) must be a non-empty sequence"
  let bases ← inner.zipIdx.mapM fun (o, i) => do
    match ← cellOf? o with
    | some (.error _ inner _ _) => pure inner
    | _ => valueError s!"Item {i} of second argument (exceptions) is not an exception"
  let areUsual := bases.all (ErrorText.isOf "Exception")
  if base = "ExceptionGroup" && !areUsual then
    typeError "Cannot nest BaseExceptions in an ExceptionGroup"
  pure (if areUsual then "ExceptionGroup" else base)

/-- What an error of a class may be given by name. -/
def errorNames (base : String) : List String :=
  if ErrorText.isOf "ImportError" base then ["name", "path"]
  else if base = "AttributeError" then ["name", "obj"]
  else if ErrorText.isOf "NameError" base then ["name"]
  else []

/-- An error of a class; `base` is the predefined class that this is or is derived from. -/
def makeErrorOf (engine : Engine) (cls : Object) (base : String) (args : ArgumentList Object) :
    Evaluation Object := do
  let admitted := errorNames base
  if let some (other, _) := args.named.find? fun e => !admitted.contains e.1 then
    let own ← nameOfError cls
    if admitted.isEmpty then typeError s!"{own}() takes no keyword arguments"
    let family := (["ImportError", "NameError"].find? fun f => ErrorText.isOf f base).getD base
    typeError s!"'{other}' is an invalid keyword argument for {family}()"
  checkCodingError base args.values
  let values ←
    if ErrorText.isOf "SyntaxError" base then placeArgs engine args.values
    else if base = "UnicodeDecodeError" then args.values.mapM fun o => do
      pure (((← bytesOf? o).map Object.bytes).getD o)
    else pure args.values
  make (.error cls base values args.named)
where
  nameOfError (cls : Object) : Evaluation String := do
    pure (Cell.nameOfClass (← frozen cls))

/-- An error of a predefined class. Some classes are chosen by the arguments. -/
def makeError (engine : Engine) (name : String) (args : ArgumentList Object) :
    Evaluation Object := do
  let name ←
    if ErrorText.isOf "BaseExceptionGroup" name then groupClass engine name args.values
    else if name = "OSError" && ErrorText.isSystemCall name args.values then
      pure (((args.values.head?.bind Object.int?).bind fun i => systemErrors.lookup i).getD name)
    else pure name
  makeErrorOf engine (.builtinClass name) name args

/-! ### Classes -/

/-- How a class that has a simple way to take its arguments takes them. -/
def classCalling? : String → Option Calling
  | "int" => some (.named 0 2 ["", "base"])
  | "complex" => some (.named 0 2 ["real", "imag"])
  | "str" => some (.named 0 3 ["object", "encoding", "errors"])
  | "bytes" | "bytearray" => some (.named 0 3 ["source", "encoding", "errors"])
  | "float" | "bool" | "list" | "tuple" | "set" | "frozenset" => some (.positional 0 1)
  | "range" | "slice" => some (.positional 1 3)
  | "enumerate" => some (.named 1 2 ["iterable", "start"])
  | "memoryview" => some (.named 1 1 ["object"])
  | "filter" => some (.positional 2 2)
  | "reversed" => some (.positional 1 1)
  | "property" => some (.named 0 4 ["fget", "fset", "fdel", "doc"])
  | "staticmethod" | "classmethod" => some (.positional 1 1)
  | _ => none

/-- A value of a class, made of what the class takes. -/
def constructOf (engine : Engine) (name : String) (args : List (Option Object)) :
    Evaluation Object := do
  let items : Evaluation (List Object) :=
    match argument? args 0 with
    | some o => elements engine o
    | none => pure []
  match name with
  | "int" => makeWhole args
  | "float" => makeReal args
  | "complex" => makeComplex args
  | "bool" => .bool <$> isTrue (argument args 0)
  | "str" => makeText args
  | "bytes" => makeBytes engine args true
  | "bytearray" => makeBytes engine args false
  | "list" => do makeList (← items)
  | "tuple" => do pure (.tuple (← items))
  | "set" => do makeSet (← items) false
  | "frozenset" => do makeSet (← items) true
  | "range" => makeRange args
  | "memoryview" => makeMemory (argument args 0)
  | "slice" => makeSlice args
  | "enumerate" => do
    let start ← match argument? args 1 with
      | some o => demandInt o
      | none => pure 0
    make (.iterator "enumerate" (.numbered start (← iterator (argument args 0))))
  | "filter" => do
    make (.iterator "filter" (.filtered (argument args 0) (← iterator (argument args 1))))
  | "reversed" => makeReversed (argument args 0)
  | "property" => make (.property ((args.take 3).map fun o => o.getD .none))
  | name => make (.wrapped name (argument args 0))

/-- The value of a class about which nothing more is known. -/
def plainInstance (c : Object) : Evaluation Object := make (.instance c [])

/-- The predefined classes that others may not be derived from. -/
def finalClasses : List String :=
  ["bool", "NoneType", "range", "slice", "memoryview", "ellipsis", "NotImplementedType",
   "function", "builtin_function_or_method", "method", "generator", "method_descriptor",
   "wrapper_descriptor", "method-wrapper", "getset_descriptor", "member_descriptor",
   "classmethod_descriptor", "dict_keys", "dict_values", "dict_items"]

/-- The predefined classes whose values hold something that no other values hold. -/
def holdingClasses : List String :=
  ["int", "float", "complex", "str", "bytes", "bytearray", "list", "tuple", "dict", "set",
   "frozenset", "property", "staticmethod", "classmethod", "map", "filter", "zip", "enumerate",
   "reversed", "super", "type", "BaseException", "BaseExceptionGroup", "SystemExit",
   "StopIteration", "ImportError", "OSError", "SyntaxError", "UnicodeEncodeError",
   "UnicodeDecodeError", "UnicodeTranslateError", "AttributeError", "NameError"]

/-- The class that decides what the values of a predefined class hold. -/
def holder (name : String) : String :=
  ((ancestors name).find? holdingClasses.contains).getD "object"

/-- Checks that values can hold what the values of all bases hold. -/
def checkHolders (best : String) : List String → Evaluation Unit
  | [] => pure ()
  | name :: rest =>
    if (ancestors best).contains name then checkHolders best rest
    else if (ancestors name).contains best then checkHolders name rest
    else typeError "multiple bases have instance lay-out conflict"

/-- Checks that what should be the base of a class is a class at all. -/
def checkIsBase (o : Object) : Evaluation Unit := do
  if ← isClass o then return
  let isForm := match o with
    | .fixed t => t.isForm || (t matches .applied _ _)
    | _ => false
  if isForm then
    typeError "type() doesn't support MRO entry resolution; use types.new_class()"
  typeError ("metaclass conflict: the metaclass of a derived class must be a (non-strict) " ++
    "subclass of the metaclasses of all its bases")

/-- Checks that a class may be derived from some bases. -/
def checkBases (bases : List Object) : Evaluation Unit := do
  bases.forM checkIsBase
  bases.forM fun c => do
    if let some name := className? c then
      if name.package.isEmpty && finalClasses.contains name.name then
        typeError s!"type '{name.name}' is not an acceptable base type"
  let names ← bases.mapM fun c => do pure (holder (← predefinedBase c).name)
  checkHolders "object" names
  let keys := bases.map classKey
  let repeated := (bases.zip keys).zipIdx.find? fun (e, i) => (keys.take i).contains e.2
  if let some ((c, _), _) := repeated then typeError s!"duplicate base class {← nameOf c}"
  match linearized ((← bases.mapM (lineage maxLineage)) ++ [bases]) with
  | .ok _ => pure ()
  | .error blocked =>
    typeError ("Cannot create a consistent method resolution\norder (MRO) for bases " ++
      ", ".intercalate (← blocked.mapM nameOf))

/-- The package that a class made here is from. -/
def currentPackage? : Evaluation (Option Object) := do
  match ← cell? (← get).globals with
  | some (.dict entries) =>
    pure ((entries.find? fun e => e.1.text? == some "__name__").map Prod.snd)
  | _ => pure none

/-- The members of a new class: those given, and the package it is from. -/
def completed (members : List (String × Object)) : Evaluation (List (String × Object)) := do
  if (members.lookup "__module__").isSome then return members
  pure (members ++ (← currentPackage?).toList.map fun package => ("__module__", package))

/-- A new class. -/
def makeClass (args : List Object) : Evaluation Object := do
  match args with
  | [name, bases, members] =>
    let name ← demandTextAt "type.__new__() argument 1" name
    match bases with
    | .tuple bases =>
      match ← entries? members with
      | some entries =>
        checkBases bases
        if '\x00' ∈ name.toList then valueError "type name must not contain null characters"
        let members := entries.filterMap fun e => e.1.text?.map fun n => (n, e.2)
        if let some o := members.lookup "__qualname__" then
          if o.text?.isNone then
            typeError s!"type __qualname__ must be a str, not {← kindName o}"
        make (.madeClass name bases (← completed members))
      | none =>
        typeError s!"type.__new__() argument 3 must be dict, not {← kindName members}"
    | o => typeError s!"type.__new__() argument 2 must be tuple, not {← kindName o}"
  | _ => throw .badTypeCall

/-- A value whose members are those of the classes behind a class in the lineage of another
value. -/
def makeSuper (args : List Object) : Evaluation Object := do
  match args with
  | [] => raise "RuntimeError" "super(): no arguments"
  | [start, own] =>
    checkIsClass start
    let isFit ← if ← isClass own then isDerived own start else pure false
    if !isFit && !(← isDerived (← classOf own) start) then
      typeError "super(type, obj): obj must be an instance or subtype of type"
    let ownKind ← if ← isClass own then nameOf own else kindName own
    let shown := s!"<super: <class '{← nameOf start}'>, <{ownKind} object>>"
    make (.instance (.builtinClass "super")
      [(superNames.1, start), (superNames.2, own), (textNames.1, .text shown)])
  | [start] =>
    checkIsClass start
    let shown := s!"<super: <class '{← nameOf start}'>, NULL>"
    make (.instance (.builtinClass "super") [(textNames.1, .text shown)])
  | several => typeError s!"super() takes at most 2 arguments ({several.length} given)"
where
  /-- The first argument has to be a class. -/
  checkIsClass (o : Object) : Evaluation Unit := do
    if !(← isClass o) then
      typeError s!"super() argument 1 must be a type, not {← kindName o}"

/-- The names of the arguments of `enumerate` are checked first. -/
def checkEnumerate (args : ArgumentList Object) : Evaluation Unit := do
  let given := args.values.length + args.named.length
  if given = 0 then typeError "enumerate() missing required argument 'iterable'"
  if given ≤ 2 then
    let admitted := if args.values.isEmpty then ["iterable", "start"] else ["start"]
    if let some (other, _) := args.named.find? fun e => !admitted.contains e.1 then
      typeError s!"'{other}' is an invalid keyword argument for enumerate()"
    if args.values.isEmpty && !args.named.any fun e => e.1 == "iterable" then
      typeError "'start' is an invalid keyword argument for enumerate()"

/-- The members with special names that classes ask for to make a value of another one. -/
def convertingMembers : List (String × List String) :=
  [("str", ["__str__", "__repr__"]), ("int", ["__int__", "__index__"]),
   ("float", ["__float__", "__index__"]), ("complex", ["__complex__", "__float__", "__index__"]),
   ("bytes", ["__bytes__"])]

/-- What a class makes of one value whose class decides it. -/
def convertSpecial? (engine : Engine) (name : String) (o : Object) :
    Evaluation (Option Object) := do
  if name = "bool" then
    if (← hasSpecial o "__bool__") || (← hasSpecial o "__len__") then
      return some (.bool (← truth engine o))
    return none
  let names := (convertingMembers.lookup name).getD []
  match ← names.findM? (hasSpecial o) with
  | none => pure none
  | some special =>
    match ← special? engine o special [] with
    | none => pure none
    | some answer =>
      let kind ← kindName answer
      if name = "str" && answer.text?.isNone then
        typeError s!"{special} returned non-string (type {kind})"
      if name = "int" && answer.int?.isNone then
        typeError s!"{special} returned non-int (type {kind})"
      if name = "bytes" && answer.bytes?.isNone then
        typeError s!"{special} returned non-bytes (type {kind})"
      pure (some answer)

/-- The classes that look at their arguments as they are. -/
def lookingClasses : List String :=
  ["type", "object", "property", "staticmethod", "classmethod", "super", "list", "tuple", "set",
   "frozenset", "dict", "map", "filter", "zip", "enumerate"]

/-- A value of a class without a package. -/
def construct (engine : Engine) (name : String) (args : ArgumentList Object) :
    Evaluation Object := do
  if name = "enumerate" then checkEnumerate args
  if let ([o], []) := (args.values, args.named) then
    if let some made ← convertSpecial? engine name o then return made
  let args ←
    if lookingClasses.contains name || isErrorClass name then pure args
    else do pure { args with values := ← args.values.mapM plain }
  if let some calling := classCalling? name then
    return ← constructOf engine name (← calling.take name name args)
  if isErrorClass name then return ← makeError engine name args
  match name with
  | "dict" => makeDict (← entriesOfCall engine "dict" args)
  | "type" =>
    match args.values with
    | [o] =>
      if !args.named.isEmpty then typeError "type() takes no keyword arguments"
      classOf o
    | several => do
      let made ← makeClass several
      if !args.named.isEmpty then
        typeError s!"{← nameOf made}.__init_subclass__() takes no keyword arguments"
      pure made
  | "object" =>
    if !args.values.isEmpty || !args.named.isEmpty then throw (.takesNothing name)
    plainInstance (.builtinClass name)
  | "zip" => makeZip args
  | "map" => makeMap args
  | "super" => makeSuper args.values
  | "mappingproxy" => do
    let o := args.values.headD .none
    match ← mappingEntries? engine o with
    | some entries => makeProxy entries
    | none => typeError s!"mappingproxy() argument must be a mapping, not {← kindName o}"
  | "module" => do
    let name ← demandTextAt "module() argument 'name'" (args.values.headD .none)
    pure (moduleObject name)
  | "NoneType" => pure .none
  | "ellipsis" => pure (.fixed (.constant .ellipsis))
  | "NotImplementedType" => pure notImplemented
  | _ => typeError s!"cannot create '{name}' instances"

/-- A value of a class of another package. -/
def constructWritten (engine : Engine) (c : ClassName) (args : ArgumentList Object) :
    Evaluation Object := do
  let cls : Object := .fixed (.cls c)
  if c.isAny then throw .anyMakesNothing
  if c.isUrl then return ← makeUrl engine c.name args
  if c.package = "httpx" then return ← makeReply engine cls args
  match ← inheritedMember? cls "__init__" with
  | some (_, f) =>
    match ← cellOf? f with
    | some (.written f) =>
      match Signature.bind f.parameters { args with values := cls :: args.values } with
      | .ok _ => plainInstance cls
      | .error e => typeError (e.message f.name)
    | _ => plainInstance cls
  | none =>
    if !args.values.isEmpty || !args.named.isEmpty then throw (.takesNothing c.name)
    plainInstance cls

/-- Keeps the texts of a value that its class decides. -/
def keepTexts (engine : Engine) (o : Object) : Evaluation Unit := do
  let textOf (special : String) : Evaluation (Option Object) := do
    if !(← hasSpecial o special) then return none
    let store ← get
    match (special? engine o special []).run store with
    | .ok (some made, after) =>
      set after
      pure (if made.text?.isSome then some made else none)
    | _ => pure none
  let shown ← textOf "__repr__"
  let plain ← textOf "__str__"
  let kept := (shown.toList.map fun s => (textNames.1, s)) ++
    plain.toList.map fun s => (textNames.2, s)
  if kept.isEmpty then return
  match o, ← cellOf? o with
  | .stored place, some (.instance cls attributes) =>
    write place (.instance cls (attributes ++ kept))
  | _, _ => pure ()

/-- Gives a new value what it is made of. -/
def fillMade? (engine : Engine) (cls made : Object) (args : ArgumentList Object) :
    Evaluation Bool := do
  match ← inheritedMember? cls "__init__" with
  | none => pure false
  | some (_, f) =>
    let given ← engine.call f { args with values := made :: args.values }
    if !given.isNone then
      typeError s!"__init__() should return None, not '{← kindName given}'"
    pure true

/-- A value of a class that was made in the evaluation. What is derived from a predefined
class holds a value of that class. -/
def constructMade (engine : Engine) (cls : Object) (args : ArgumentList Object) :
    Evaluation Object := do
  if let some (_, f) ← inheritedMember? cls "__new__" then
    let f := match ← cellOf? f with
      | some (.wrapped _ inner) => inner
      | _ => f
    let made ← engine.call f { args with values := cls :: args.values }
    if ← isDerived (← classOf made) cls then
      let _ ← fillMade? engine cls made args
    return made
  let base ← predefinedBase cls
  if base.isUrl then return ← makeUrl engine (← nameOf cls) args
  if base.package = "httpx" then return ← makeReply engine cls args
  if isErrorClass base.name then return ← makeErrorOf engine cls base.name args
  if base.name = "type" then return ← construct engine base.name args
  let isPlain := base.name = "object" || !base.package.isEmpty
  let made ←
    if isPlain then plainInstance cls
    else do
      let hasOwn := (← inheritedMember? cls "__init__").isSome
      let changes := ["list", "dict", "set", "bytearray"].contains base.name
      let value ← construct engine base.name (if hasOwn && changes then {} else args)
      make (.instance cls [(heldName, value)])
  if !(← fillMade? engine cls made args) && isPlain then
    if !args.values.isEmpty || !args.named.isEmpty then throw (.takesNothing (← nameOf cls))
  keepTexts engine made
  pure made

end HttpInterface.Predefined
