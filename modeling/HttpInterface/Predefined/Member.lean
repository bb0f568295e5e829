import HttpInterface.Predefined.FormMember

/-!
# `HttpInterface.Predefined.Member`: calls of the members of values

A member is called with the value that it belongs to. Called as a member of a class it
takes this value as its first argument, which has to be a value of that class.
-/

set_option autoImplicit false

namespace HttpInterface.Predefined

open Evaluation

/-- How a method of bytes that are seen in another value takes its arguments. -/
def memoryCalling (name : String) : Calling :=
  match name with
  | "tobytes" => .named 0 1 ["order"]
  | "hex" => .named 0 2 ["sep", "bytes_per_sep"]
  | "cast" => .named 1 2 ["format", "shape"]
  | "__exit__" => .any
  | _ => .nothing

/-- What a method of bytes that are seen in another value does. -/
def callMemory (engine : Engine) (o : Object) (name : String) (args : List (Option Object)) :
    Evaluation Object := do
  let bs := (← bytesOf? o).getD []
  match name with
  | "tobytes" => pure (.bytes bs)
  | "hex" => callBytes engine true bs "hex" args
  | "tolist" => makeList (byteNumbers bs)
  | "cast" | "__enter__" => pure o
  | "toreadonly" => make (.memory (.bytes bs) (List.range bs.length))
  | _ => pure .none

/-- How a method of a class takes its arguments. -/
def methodCalling (owner name : String) : Calling :=
  if ["__getitem__", "__contains__", "__instancecheck__", "__subclasscheck__",
      "__class_getitem__"].contains name then .one
  else if ["str"].contains owner then textCalling name
  else if ["bytes", "bytearray"].contains owner then bytesCalling name
  else if ["int", "float", "complex"].contains owner then numberCalling name
  else if ["list", "tuple"].contains owner then listCalling name
  else if ["dict", "mappingproxy"].contains owner then dictCalling name
  else if ["set", "frozenset"].contains owner then setCalling name
  else if owner = "URL" then urlCalling name
  else if owner = "memoryview" then memoryCalling name
  else if ["count", "index", "indices", "isdisjoint", "send", "with_traceback", "add_note",
      "__format__"].contains name then .one
  else if name = "throw" then .any
  else .nothing

/-- What a method makes of a view of a dictionary. -/
def callView (engine : Engine) (kind : ViewKind) (place : Nat) (name : String)
    (args : List (Option Object)) : Evaluation Object := do
  let items ← viewItems kind place
  match name with
  | "isdisjoint" =>
    let others ← elements engine (argument args 0)
    pure (.bool !(← others.anyM (holds items)))
  | "__reversed__" => makeReversed (.stored place)
  | _ => throw (.noMember kind.className name)

/-- What a method of an iterator does. -/
def callIterator (engine : Engine) (it : Object) (place : Nat) (kind : String) (source : Source)
    (name : String) (sent : Object) : Evaluation Object := do
  match name, source with
  | "send", .paused state =>
    if state.slot?.isNone && state.inner?.isNone && !sent.isNone then
      typeError "can't send non-None value to a just-started generator"
    write place (.iterator kind (.paused { state with sent }))
    nextOf engine it
  | "send", _ => nextOf engine it
  | "close", _ => do
    write place (.iterator kind (.values []))
    pure .none
  | "__length_hint__", .values items => pure (.int items.length)
  | "__length_hint__", .range _ _ count => pure (.int count)
  | "__length_hint__", .list list position => do
    match ← cell? list with
    | some (.list items) => pure (.int (items.size - position : Nat))
    | _ => pure (.int 0)
  | _, _ => throw (.noMember kind name)

/-- What a method of a class as a value does. -/
def callClassMember (c : Object) (name : String) (args : List (Option Object)) :
    Evaluation Object := do
  match name with
  | "mro" => do makeList (← lineage maxLineage c)
  | "__instancecheck__" => .bool <$> isInstanceOf (argument args 0) c
  | "__subclasscheck__" => .bool <$> testClass .isSubclass (argument args 0) c
  | "__subclasses__" => do makeList (← subclassesOf c)
  | _ => throw (.noClassMember (← nameOf c) name)

/-- Adds a note to the notes of an error. -/
def addNote (e : Object) (attributes : List (String × Object)) (note : Object) :
    Evaluation Object := do
  let _ ← demandText "note must be a str" note
  let known := (attributes.lookup "__notes__").getD .none
  match known, ← cellOf? known with
  | .stored place, some (.list items) =>
    write place (.list (items.push note))
    pure .none
  | _, _ => setMember e "__notes__" (← makeList [note])

/-- What a method does that is not behind an operator; `holder` is the class that messages
name. -/
def callMethod (engine : Engine) (receiver : Object) (owner holder name : String)
    (given : ArgumentList Object) : Evaluation Object := do
  let args ← (methodCalling owner name).take (qualifiedName holder name) name given
  let refuseNamed : Evaluation Unit :=
    if given.named.isEmpty then pure ()
    else typeError s!"{qualifiedName holder name}() takes no keyword arguments"
  if ["__getitem__", "__contains__"].contains name then
    return ← callOperator engine receiver name given.values
  if name = "__reversed__" then return ← makeReversed receiver
  if name = "__format__" && owner = "object" then
    let layout ← demandTextAt "__format__() argument" (argument args 0)
    return .text (← layObject layout receiver)
  if name = "__dir__" then return ← makeList ((← listedNames receiver).map Object.text)
  match receiver, ← cellOf? receiver with
  | .fixed (.text s), _ =>
    if name = "format" then .text <$> TextTemplate.fillWith given s
    else if name = "format_map" then .text <$> TextTemplate.fillFromMapping (argument args 0) s
    else callText engine s name args
  | .fixed (.constant (.bytes bs)), _ => callBytes engine true bs name args
  | .tuple items, _ =>
    if name = "__getnewargs__" then pure (.tuple [receiver])
    else
      match ← callRow? items "tuple" name args with
      | some o => pure o
      | none => throw (.noMember "tuple" name)
  | .fixed (.other { kind := "URL", plainText := some s, .. }), _ =>
    callUrl engine (.ofNormalText s) name given args
  | .stored place, some (.list items) => callList engine place items.toList name args
  | o, some (.memory _ _) => callMemory engine o name args
  | .stored place, some (.byteArray bs) =>
    match ← changeByteArray? engine place bs name args with
    | some o => pure o
    | none => callBytes engine false bs name args
  | .stored place, some (.dict entries) =>
    if name = "update" then
      let more ← entriesOfCall engine name given
      write place (.dict (← more.foldlM (fun made e => Evaluation.setEntry made e.1 e.2) entries))
      pure .none
    else callDict place entries name args
  | .stored place, some (.set items isFrozen) =>
    refuseNamed
    match ← callSet? engine items isFrozen name args with
    | some o => pure o
    | none => changeSet engine place items name args
  | range, some (.range start _ step) => callRange engine range start step name args
  | _, some (.slice start stop step) => sliceIndices start stop step (argument args 0)
  | _, some (.view kind place) => callView engine kind place name args
  | it, some (.iterator kind source) =>
    match it with
    | .stored place => callIterator engine it place kind source name (argument args 0)
    | _ => throw (.noMember kind name)
  | _, some (.instance _ (("status_code", status) :: ("reason_phrase", phrase) :: others)) =>
    callReply (("status_code", status) :: ("reason_phrase", phrase) :: others) name
  | e, some (.error _ _ _ attributes) =>
    if name = "with_traceback" then pure e
    else if name = "add_note" then addNote e attributes (argument args 0)
    else throw (.noMember (← kindName e) name)
  | o, _ =>
    match o.number? with
    | some n => callNumber n name args
    | none =>
      if ← isClass o then callClassMember o name args
      else throw (.noMember (← kindName o) name)

/-- A value of a class, made by the member that makes values of a class it is derived from. -/
def makeAsMember (engine : Engine) (c : Object) (given : ArgumentList Object) :
    Evaluation Object := do
  let rootOf (c : Object) : Evaluation ClassName := do
    let base ← predefinedBase c
    pure (if base.package.isEmpty then base else .object)
  let base ← rootOf c
  match given.values with
  | [] => typeError s!"{base.name}.__new__(): not enough arguments"
  | cls :: rest =>
    if !(← isClass cls) then
      typeError s!"{base.name}.__new__(X): X is not a type object ({← kindName cls})"
    let own ← nameOf cls
    if !(← isDerived cls (.fixed (.cls base))) then
      typeError s!"{base.name}.__new__({own}): {own} is not a subtype of {base.name}"
    let root ← rootOf cls
    if root.name != base.name && !(isErrorClass base.name && isErrorClass root.name) then
      typeError s!"{base.name}.__new__({own}) is not safe, use {root.name}.__new__()"
    if base.name = "object" then
      if !rest.isEmpty || !given.named.isEmpty then
        if (← inheritedMember? cls "__new__").isSome then
          typeError "object.__new__() takes exactly one argument (the type to instantiate)"
        if (← inheritedMember? cls "__init__").isNone then throw (.takesNothing own)
      plainInstance cls
    else
      let value ← construct engine root.name { given with values := rest }
      if ← isSameClass cls (.fixed (.cls root)) then pure value
      else make (.instance cls [(heldName, value)])

/-- What the member does that gives a new value what it is made of, if its class has none of
its own. A list takes other items. -/
def fill (engine : Engine) (o : Object) (args : ArgumentList Object) : Evaluation Object := do
  match o, ← cellOf? o, args.values with
  | .stored place, some (.list _), [row] =>
    write place (.list (← elements engine row).toArray)
  | .stored place, some (.list _), [] => write place (.list #[])
  | _, _, _ => pure ()
  if let some (.instance cls attributes) ← cellOf? o then
    let excess := !args.values.isEmpty || !args.named.isEmpty
    if excess && (attributes.lookup heldName).isNone then
      if (← inheritedMember? cls "__init__").isSome then
        typeError ("object.__init__() takes exactly one argument " ++
          "(the instance to initialize)")
      if (← inheritedMember? cls "__new__").isNone then
        typeError (s!"{← nameOf cls}.__init__() takes exactly one argument " ++
          "(the instance to initialize)")
  pure .none

/-- What a method of a class, or a function that belongs to one, does. -/
def callOfClass (engine : Engine) (c : Object) (owner name : String)
    (given : ArgumentList Object) : Evaluation Object := do
  if name = "__new__" then return ← makeAsMember engine c given
  if name = "__subclasshook__" then return notImplemented
  let args ← (methodCalling owner name).take (qualifiedName (← nameOf c) name) name given
  match owner, name with
  | "dict", "fromkeys" => dictFromKeys engine args
  | "int", "from_bytes" => do
    let n ← wholeOfBytes engine args
    if (← nameOf c) = "bool" then .bool <$> isTrue n else pure n
  | "float", "fromhex" => realOfHex (argument args 0)
  | "float", "__getformat__" => formatOfReals (argument args 0)
  | "str", "maketrans" => translationTable args
  | "bytes", _ => callBytes engine true [] name args
  | "bytearray", _ => callBytes engine false [] name args
  | _, "__class_getitem__" => subscript c (argument args 0)
  | _, "__init_subclass__" => pure .none
  | _, _ => plainInstance c

/-- A comparison of values about which nothing more is known: each is equal to itself. -/
def compareByIdentity (name : String) (a b : Object) : Evaluation Object := do
  match name, ← identical a b with
  | "__eq__", true => pure (.bool true)
  | "__ne__", true => pure (.bool false)
  | _, _ => pure notImplemented

/-- Checks how many arguments a member behind a piece of grammar gets. -/
def checkCount (expected given : Nat) : Evaluation Unit := do
  if given ≠ expected then
    if expected = 1 then typeError s!"expected 1 argument, got {given}"
    typeError s!" expected {expected} arguments, got {given}"

/-- A call of a member with the value that it belongs to; `holder` is the class that
messages name. -/
def callMemberOf (engine : Engine) (receiver : Object) (owner holder name : String)
    (args : ArgumentList Object) : Evaluation Object := do
  match findMember? owner name with
  | some (finder, .operator) =>
    if name = "__call__" then engine.call receiver args
    else if name = "__init__" then fill engine receiver args
    else if name = "__setattr__" then
      checkCount 2 args.values.length
      setMember receiver (← memberName (args.values.headD .none)) (args.values.getD 1 .none)
    else if name = "__delattr__" then
      checkCount 1 args.values.length
      deleteMember receiver (← memberName (args.values.headD .none))
    else if finder = "object" && (comparisonMembers.lookup name).isSome then
      checkArity name false args.values.length
      compareByIdentity name receiver (args.values.headD .none)
    else
      if !args.named.isEmpty && name != "__init__" then
        typeError s!"wrapper {name}() takes no keyword arguments"
      callOperator engine receiver name args.values
  | some (owner, .ofClass) | some (owner, .free) => callOfClass engine receiver owner name args
  | _ => callMethod engine receiver owner holder name args

/-- A call of a member with the value that it belongs to. -/
def callMember (engine : Engine) (receiver : Object) (owner name : String)
    (args : ArgumentList Object) : Evaluation Object := do
  if let .fixed t := receiver then
    if FormMethod.owners.contains owner then return ← callForm engine t owner name args
  let holder ← if ← isClass receiver then nameOf receiver else pure owner
  callMemberOf engine receiver owner holder name args

/-- A call of a member of a class, with the value that it is to belong to in front. -/
def callUnbound (engine : Engine) (owner name : String) (args : ArgumentList Object) :
    Evaluation Object := do
  let isOperator := match findMember? owner name with
    | some (_, .operator) => true
    | _ => false
  match args.values with
  | [] =>
    if isOperator then typeError s!"descriptor '{name}' of '{owner}' object needs an argument"
    else typeError s!"unbound method {qualifiedName owner name}() needs an argument"
  | receiver :: rest =>
    if !(← isDerived (← classOf receiver) (.builtinClass owner)) then
      let kind ← kindName receiver
      if isOperator then
        typeError s!"descriptor '{name}' requires a '{owner}' object but received a '{kind}'"
      else
        typeError (s!"descriptor '{name}' for '{owner}' objects doesn't apply to a " ++
          s!"'{kind}' object")
    callMemberOf engine receiver owner owner name { args with values := rest }

end HttpInterface.Predefined
