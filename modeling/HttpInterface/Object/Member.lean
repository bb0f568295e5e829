import HttpInterface.Object.FormMethod
import HttpInterface.Object.UrlMember
import HttpInterface.OrderedMap
import HttpInterface.Predefined.Documentation
import HttpInterface.Predefined.Module
import HttpInterface.TypeExpr.Apply

/-!
# `HttpInterface.Object.Member`: what stands behind a point after a value

A value has the members that its class gives it, with the value itself in front of the
arguments of the functions among them. A class has its own members and those of the
classes that it is derived from, and then those that every class has as a value. A form
of a type hands on what is asked of it to the class that it stands for.
-/

set_option autoImplicit false

namespace HttpInterface.Evaluation

/-! ### Texts and tuples of types -/

/-- Type variables as a tuple. -/
def variableTuple (names : List String) : Object := .tuple (names.map fun n => .fixed (.typeVar n))

/-- Types as a tuple. -/
def typeTuple (types : List TypeExpr) : Evaluation Object := do
  pure (.tuple (← Object.ofTypes types))

/-- A class as an object. -/
def classObject (c : ClassName) : Object :=
  if c.package.isEmpty && c.name = "NoneType" then .fixed .noneType else .fixed (.cls c)

/-! ### Members that belong to a value -/

/-- A member of a predefined class with the value that it belongs to. -/
def bindMember (receiver : Object) (owner name : String) : Evaluation Object :=
  make (.bound receiver owner name)

/-! ### Members that are values -/

/-- A member of a number. -/
def numberMember? (n : Number) (name : String) : Option Object :=
  match n, name with
  | .whole i, "real" | .whole i, "numerator" => some (.int i)
  | .whole _, "imag" => some (.int 0)
  | .whole _, "denominator" => some (.int 1)
  | .real x, "real" => some (.float x)
  | .real _, "imag" => some (.float 0.0)
  | .complex re _, "real" => some (.float re)
  | .complex _ im, "imag" => some (.float im)
  | _, _ => none

/-- The bound of a range or of a slice. -/
def boundMember? (start stop step : Object) (name : String) : Option Object :=
  [("start", start), ("stop", stop), ("step", step)].lookup name

/-- The members of an error about coding, in the order of its arguments. -/
def codingMembers (base : String) : List String :=
  if base = "UnicodeTranslateError" then ["object", "start", "end", "reason"]
  else if base = "UnicodeEncodeError" || base = "UnicodeDecodeError" then
    ["encoding", "object", "start", "end", "reason"]
  else []

/-- The members of an error about a place in a text. -/
def placeMembers : List String :=
  ["filename", "lineno", "offset", "text", "end_lineno", "end_offset"]

/-- A member of bytes that are seen in another value. -/
def memoryMember? (source : Object) (count : Nat) (name : String) : Option Object :=
  match name with
  | "obj" => some source
  | "nbytes" => some (.int count)
  | "readonly" => some (.bool source.bytes?.isSome)
  | "itemsize" | "ndim" => some (.int 1)
  | "format" => some (.text "B")
  | "shape" => some (.tuple [.int count])
  | "strides" => some (.tuple [.int 1])
  | "suboffsets" => some (.tuple [])
  | "contiguous" | "c_contiguous" | "f_contiguous" => some (.bool true)
  | _ => none

/-- A member of an error, by the arguments that it was made of. -/
def errorMember? (base : String) (args : List Object) (name : String) : Option Object :=
  let isOf (ancestor : String) : Bool := ErrorText.isOf ancestor base
  let systemArg (i : Nat) : Object :=
    if ErrorText.isSystemCall base args then (args[i]?).getD .none else .none
  if name = "args" then some (.tuple (ErrorText.keptArgs Object.isNone base args))
  else if name = "__suppress_context__" then some (.bool false)
  else if ["__traceback__", "__context__", "__cause__"].contains name then some .none
  else if (Predefined.findMember? base name).isNone then none
  else if let some i := (codingMembers base).idxOf? name then some ((args[i]?).getD .none)
  else if isOf "SyntaxError" then
    if name = "msg" then some (args.headD .none)
    else
      match (args.drop 1).head?, placeMembers.idxOf? name with
      | some (.tuple place), some i => some ((place[i]?).getD .none)
      | _, _ => if placeMembers.contains name then some .none else none
  else
    match name with
    | "value" => some (args.headD .none)
    | "code" =>
      some (match args with
        | [] => .none
        | [one] => one
        | several => .tuple several)
    | "errno" => some (systemArg 0)
    | "strerror" => some (systemArg 1)
    | "msg" => some (if args.length = 1 then args.headD .none else .none)
    | "message" => some (args.headD .none)
    | "name" | "path" | "obj" | "encoding" => some .none
    | name => (ErrorText.filePlaces.lookup name).map systemArg

/-- A member of a function that is written in a text. -/
def functionMember? (name own path : String) (values : List Object) :
    Evaluation (Option Object) := do
  match name with
  | "__name__" => pure (some (.text own))
  | "__qualname__" => pure (some (.text path))
  | "__defaults__" => pure (some (if values.isEmpty then .none else .tuple values))
  | "__kwdefaults__" | "__closure__" | "__module__" | "__doc__" => pure (some .none)
  | "__annotations__" | "__dict__" => some <$> make (.dict [])
  | _ => pure none

/-- Entries of types as a dictionary. -/
def typeDict (entries : List (String × TypeExpr)) : Evaluation Object := do
  make (.dict (← entries.mapM fun e => do pure (Object.text e.1, ← Object.ofType e.2)))

/-- A member of a function that is written in a class. Every value that its parameters have
of their own is none. -/
def writtenMember? (f : KnownFunction) (name : String) : Evaluation (Option Object) := do
  if let some t := f.attributes.lookup name then return some (← Object.ofType t)
  let optional (byName : Bool) : List SignatureParameter :=
    f.parameters.filter fun p => p.isOptional && (p.kind == .keyword) == byName
  match name with
  | "__kwdefaults__" =>
    let names := optional true
    if names.isEmpty then pure (some .none)
    else some <$> make (.dict (names.map fun p => (.text p.name, .none)))
  | "__annotations__" => some <$> typeDict f.annotations
  | "__dict__" => some <$> typeDict f.attributes
  | name => functionMember? name f.name f.name ((optional false).map fun _ => .none)

/-- A member of a thing that has a name. -/
def namedMember? (own name : String) : Option Object :=
  if name = "__name__" || name = "__qualname__" then some (.text own) else none

/-- The name of a member with its class in front. -/
def qualifiedName (owner name : String) : String := owner ++ "." ++ name

/-- What is said where a reply has to know the request that it belongs to. -/
def noRequest : String := "The request instance has not been set on this response."

/-- What is said of a member of a reply that depends on the request that it belongs to, or on
how it was received. -/
def missingFromReply? (name : String) : Option String :=
  if name = "url" || name = "request" then some noRequest
  else if name = "elapsed" then
    some "'.elapsed' may only be accessed after the response has been read or closed."
  else none

/-- A value that is kept or found out in an object, and that is no method. -/
def valueMember? (o : Object) (name : String) : Evaluation (Option Object) := do
  match o, ← cellOf? o with
  | .fixed (.typeVar own), _ =>
    pure ([("__name__", .text own), ("__covariant__", .bool false),
      ("__contravariant__", .bool false), ("__bound__", .none),
      ("__constraints__", .tuple [])].lookup name)
  | .fixed (.other { kind := "module", name := some own, .. }), _ =>
    pure (Predefined.moduleMember? own name)
  | .fixed (.other { kind := "URL", plainText := some s, .. }), _ =>
    urlMember? (.ofNormalText s) name
  | .fixed (.other { name := some own, .. }), _ => pure (namedMember? own name)
  | .fixed (.bars members), _ =>
    if name = "__args__" then some <$> typeTuple members
    else if name = "__parameters__" then
      pure (some (variableTuple (TypeExpr.openVariables (.bars members))))
    else pure none
  | .predefined own, _ =>
    match name with
    | "__self__" => pure (some (Predefined.moduleObject "builtins"))
    | "__module__" => pure (some (.text "builtins"))
    | "__doc__" => pure (some ((Predefined.documentation? own).elim .none .text))
    | _ => pure (namedMember? own name)
  | .moduleFunction _ module own, _ =>
    match name with
    | "__module__" => pure (some (.text module))
    | "__self__" => pure none
    | "__defaults__" | "__kwdefaults__" | "__closure__" => pure (some .none)
    | _ => pure (namedMember? own name)
  | .memberOfClass owner own, _ =>
    match name with
    | "__name__" => pure (some (.text own))
    | "__qualname__" => pure (some (.text (qualifiedName owner own)))
    | "__objclass__" => pure (some (.builtinClass owner))
    | _ => pure none
  | _, some (.bound receiver owner own) =>
    match name with
    | "__name__" => pure (some (.text own))
    | "__qualname__" => pure (some (.text (qualifiedName owner own)))
    | "__self__" => pure (some receiver)
    | _ => pure none
  | _, some (.boundFunction receiver f) =>
    match name with
    | "__self__" => pure (some receiver)
    | "__func__" => pure (some f)
    | _ => functionMember? name (← frozen f).name (← frozen f).name []
  | _, some (.closure c) => functionMember? name "<lambda>" c.path (c.defaults.map Prod.snd)
  | _, some (.written f) => writtenMember? f name
  | _, some (.wrapped _ f) =>
    if name = "__func__" || name = "__wrapped__" then pure (some f) else pure none
  | _, some (.property parts) =>
    match ["fget", "fset", "fdel"].findIdx? (· == name) with
    | some i => pure (some ((parts[i]?).getD .none))
    | none => pure none
  | _, some (.memory source positions) => pure (memoryMember? source positions.length name)
  | _, some (.range start stop step) =>
    pure (boundMember? (.int start) (.int stop) (.int step) name)
  | _, some (.slice start stop step) => pure (boundMember? start stop step name)
  | _, some (.error _ base args attributes) =>
    if name = "exceptions" && ErrorText.isOf "BaseExceptionGroup" base then
      let inner := args.getD 1 .none
      match ← cellOf? inner with
      | some (.list items) => pure (some (.tuple items.toList))
      | _ => pure (some inner)
    else if name = "print_file_and_line" && ErrorText.isOf "SyntaxError" base then
      pure (some .none)
    else pure ((attributes.lookup name).or (errorMember? base args name))
  | _, some (.iterator "generator" source) =>
    match name with
    | "__qualname__" =>
      match source with
      | .generator state => pure (some (.text state.path))
      | .paused state => pure (some (.text state.path))
      | _ => pure (namedMember? "<genexpr>" name)
    | "gi_running" | "gi_suspended" => pure (some (.bool false))
    | "gi_yieldfrom" => pure (some .none)
    | _ =>
      let own := if source matches .paused _ then "<lambda>" else "<genexpr>"
      pure (namedMember? own name)
  | _, some (.view _ place) => pure (if name = "mapping" then some (.stored place) else none)
  | _, some (.instance _ attributes) =>
    match attributes with
    | ("status_code", _) :: ("reason_phrase", _) :: _ =>
      if let some message := missingFromReply? name then raise "RuntimeError" message
    | _ => pure ()
    pure (attributes.lookup name)
  | o, _ => pure (o.number?.bind fun n => numberMember? n name)

/-! ### Members of classes -/

/-- The name under which the members of a class are listed. -/
def listedName (c : ClassName) : String :=
  if c.package.isEmpty then c.name
  else if c.isUrl then "URL"
  else if c.package = "httpx" then c.name
  else "object"

/-- A member that a class has by being predefined, or by being derived from one that is.
`receiver` is what members of the class itself belong to. -/
def listedMember? (c : ClassName) (receiver : Object) (name : String) :
    Evaluation (Option Object) := do
  match Predefined.findMember? (listedName c) name with
  | none => pure none
  | some (owner, sort) =>
    match sort with
    | .method | .operator | .attribute | .field => pure (some (.memberOfClass owner name))
    | .ofClass | .free => some <$> bindMember receiver owner name
    | .function =>
      pure (some (.fixed (.other
        { kind := "function", name := some name, text := s!"<function {owner}.{name}>" })))
    | .property =>
      pure (some (.fixed (.other
        { kind := "property", name := none, text := "<property object>" })))
    | .absent => pure (some .none)

/-- The name of a class. -/
def nameOf (c : Object) : Evaluation String := do
  match className? c, ← cellOf? c with
  | some name, _ => pure name.name
  | none, some (.madeClass name _ _) => pure name
  | none, _ => pure ""

/-- The classes that a class is derived from at once. -/
def basesOf (c : Object) : Evaluation (List Object) := do
  match className? c, ← cellOf? c with
  | some name, _ =>
    if name.package.isEmpty then
      pure ((Predefined.basesOf name.name).map .builtinClass)
    else
      match ← knownClass? name with
      | some known =>
        pure (if known.bases.isEmpty then [objectClass] else known.bases.map .fixed)
      | none =>
        let above := (← ancestorsOf name).drop 1
        pure ((above.take 1).map classObject)
  | none, some (.madeClass _ bases _) => pure (madeBases bases)
  | none, _ => pure []
where
  objectClass : Object := .builtinClass "object"

/-- The classes that are derived from a class at once, in the order in which they were made. -/
def subclassesOf (c : Object) : Evaluation (List Object) := do
  let store ← get
  let predefined := (Predefined.valueClasses ++ Predefined.errorClasses).map Object.builtinClass
  let known := store.classes.map fun k => Object.fixed (.cls k.className)
  let isMade : Cell → Bool
    | .madeClass .. => true
    | _ => false
  let made := (store.cells.toList.zipIdx.filter fun e => isMade e.1).map fun e =>
    Object.stored e.2
  (predefined ++ known ++ made).filterM fun d => do
    (← basesOf d).anyM (isSameClass c)

/-- The package that a class says it is from. -/
def packageOf (c : Object) : Evaluation Object := do
  match className? c, ← cellOf? c with
  | some name, _ =>
    let package := if name.package.isEmpty then "builtins" else name.package
    pure ((← ownMember? name "__module__").getD (.text package))
  | none, some (.madeClass _ _ members) =>
    pure ((members.lookup "__module__").getD (.text "builtins"))
  | none, _ => pure (.text "builtins")

/-- A member that every class has as a value of its own, before those it was given. -/
def classData? (c : Object) (name : String) : Evaluation (Option Object) := do
  match name with
  | "__name__" => pure (some (.text (← nameOf c)))
  | "__qualname__" =>
    let longName := (className? c).map ClassName.longName
    match ← cellOf? c with
    | some (.madeClass name _ members) =>
      pure (some ((members.lookup "__qualname__").getD (.text name)))
    | _ => pure (some (.text (longName.getD (← nameOf c))))
  | "__module__" => pure (some (← packageOf c))
  | "__class__" => pure (some (← classOf c))
  | "__bases__" => pure (some (.tuple (← basesOf c)))
  | "__base__" => pure (some ((← basesOf c).headD .none))
  | "__mro__" => pure (some (.tuple (← lineage maxLineage c)))
  | "__text_signature__" => pure (some .none)
  | _ => pure none

/-- A member that a class that is written in the same place has without being given it. -/
def writtenClassData? (c : ClassName) (name : String) : Evaluation (Option Object) := do
  if c.package.isEmpty || c.package = "typing" || c.package = "httpx" then return none
  match name with
  | "__doc__" => pure (some .none)
  | "__annotations__" => some <$> make (.dict [])
  | "__weakref__" =>
    pure (some (.fixed (.other
      { kind := "getset_descriptor"
        name := some name
        text := s!"<attribute '__weakref__' of '{c.name}' objects>" })))
  | "__parameters__" => pure (c.typeVariables.map variableTuple)
  | _ => pure none

/-- A name for the classes that are made in an evaluation. -/
def madeName : ClassName := { package := "__main__", name := "" }

/-- The members that a class keeps beside those that it is given. -/
def keptNames : List String := ["__dict__", "__weakref__", "__doc__"]

/-- The names that a class holds itself, in order. -/
def heldNames (c : Object) : Evaluation (List String) := do
  match className? c, ← cellOf? c with
  | some d, _ =>
    if d.package.isEmpty || d.package = "httpx" then
      let members? := Predefined.memberTable.lookup d.name
      let sorts := (members?.map Predefined.ClassMembers.sorts).getD []
      let own := sorts.flatMap fun e => Predefined.namesIn e.2
      let kept := if d.package.isEmpty then ["__doc__"] else "__module__" :: keptNames
      return (own.filter fun n => !n.isEmpty) ++ kept
    if d.package = "typing" then
      return ["__module__", "__doc__", "__slots__", "_is_protocol", "__class_getitem__",
        "__init_subclass__"]
    let given := (← ownMembers d).map Prod.fst
    let parameters := if d.typeVariables.isSome then ["__parameters__"] else []
    pure (("__module__" :: given ++ keptNames ++ parameters).eraseDups)
  | none, some (.madeClass _ _ members) => pure ((members.map Prod.fst ++ keptNames).eraseDups)
  | none, _ => pure []

/-- What a class says of its values. -/
def classDocumentation (c : Object) : Object :=
  (((className? c).bind fun d => if d.package.isEmpty then some d.name else none).bind
    Predefined.documentation?).elim .none .text

/-- A member of a class. -/
def classMember? (c : Object) (name : String) : Evaluation (Option Object) := do
  if let some o ← classData? c name then return some o
  if let some (_, f) ← inheritedMember? c name then return some (← functionOfClass c f)
  if name = "__abstractmethods__" then throw (.noFormMember name)
  if name = "__annotations__" && (className? c).any fun d => d.package.isEmpty then
    return none
  if let some o ← writtenClassData? ((className? c).getD madeName) name then return some o
  if name = "__doc__" then return some (classDocumentation c)
  if name = "__class_getitem__" && (className? c).any fun d => d.typeVariables.isSome then
    return some (← bindMember c "Generic" name)
  if let some o ← listedMember? (← predefinedBase c) c name then return some o
  match Predefined.findMember? "type" name with
  | some (owner, _) => some <$> bindMember c owner name
  | none => pure none

/-! ### Members of forms -/

/-- A method of a form, if it has one of that name. Some are those of all values. -/
def formMethod? (t : TypeExpr) (name : String) : Evaluation (Option Object) := do
  match FormMethod.owner? t.kindName name, Predefined.findMember? "object" name with
  | some owner, _ => some <$> bindMember (.fixed t) owner name
  | none, some (owner, _) => some <$> bindMember (.fixed t) owner name
  | none, none => pure none

/-- What every form keeps beside its arguments. -/
def formData? (t : TypeExpr) (name : String) : Option Object :=
  match t, name with
  | .bare head, "_nparams" => if t.isPlainForm then none else some (.int (TypeExpr.arity head))
  | .bare head, "__doc__" =>
    if t.isPlainForm then (Predefined.documentation? head.name).map Object.text
    else some (.text s!"A generic version of {head.origin}.")
  | .applied _ _, "__doc__" | .union _, "__doc__" | .literal _, "__doc__" => some .none
  | .bare _, "_inst" => if t.isPlainForm then none else some (.bool false)
  | .applied head _, "_inst" => some (.bool (head.package != "typing"))
  | .union _, "_inst" | .literal _, "_inst" | .annotated _ _, "_inst" => some (.bool true)
  | t, "__slots__" => if t.isPlainForm then none else some .none
  | _, _ => none

/-- What is asked of a form goes to the class that it stands for, unless the name is
special. -/
def handedOn (t : TypeExpr) (origin : ClassName) (name : String) : Evaluation Object := do
  if let some o := formData? t name then return o
  if let some o ← formMethod? t name then return o
  if Thing.isSpecialName name then throw (.noFormMember name)
  else
    match ← classMember? (classObject origin) name with
    | some o => pure o
    | none => throw (.noClassMember origin.name name)

/-- What is asked of a form that stands for no class. -/
def notHandedOn (t : TypeExpr) (own name : String) : Evaluation Object := do
  if name = "__name__" || name = "__qualname__" || name = "_name" then return .text own
  if name = "__module__" then return .text "typing"
  if name = "__class__" then return .fixed (.cls { package := "typing", name := t.kindName })
  if let some o := formData? t name then return o
  match ← formMethod? t name with
  | some o => pure o
  | none => throw (.noFormMember name)

/-- The class that a form stands for. -/
def originOf (head : TypeHead) : ClassName :=
  { package :=
      if head.package = "typing" then ((ClassForm.find? head.name).map ClassForm.package).getD ""
      else head.package
    name := head.origin
    identity := head.identity }

/-- A member of a form with a class behind it. -/
def classFormMember (t : TypeExpr) (head : TypeHead) (name : String) : Evaluation Object :=
  match name with
  | "__origin__" => do
    let origin := originOf head
    match ← knownClass? origin with
    | some known => pure (.fixed (.cls known.className))
    | none => pure (.fixed (.cls origin))
  | "__name__" | "__qualname__" => pure (.text head.name)
  | "_name" => pure (if head.package = "typing" then .text head.name else .none)
  | "__module__" => pure (.text (if head.package.isEmpty then "builtins" else head.package))
  | "__class__" => pure (.fixed (.cls { package := "typing", name := t.kindName }))
  | name => handedOn t (originOf head) name

/-- A member of a type with arguments, if it is about these. -/
def argumentMember? (t : TypeExpr) (args : List TypeExpr) (name : String) :
    Evaluation (Option Object) := do
  match name with
  | "__args__" => some <$> typeTuple args
  | "__parameters__" => pure (some (variableTuple t.openVariables))
  | "__unpacked__" => pure (some (.bool false))
  | _ => pure none

/-- A member of a form of a type. -/
def formMember? (t : TypeExpr) (name : String) : Evaluation (Option Object) := do
  let form (own : String) : Object := .fixed (.bare (.ofForm own own))
  match t with
  | .typeVar _ =>
    (FormMethod.owner? t.kindName name).mapM fun owner => bindMember (.fixed t) owner name
  | .unpacked inner =>
    if t.kindName = "types.GenericAlias" then
      if name = "__unpacked__" then pure (some (.bool true)) else formMember? inner name
    else
      if let some o ← argumentMember? t [inner] name then return some o
      match name with
      | "__origin__" => pure (some (form "Unpack"))
      | "_name" => pure (some .none)
      | name => some <$> notHandedOn t "Unpack" name
  | .bare head =>
    if t.isPlainForm then some <$> notHandedOn t head.name name
    else some <$> classFormMember t head name
  | .applied head args =>
    if let some o ← argumentMember? t args name then return some o
    if t.isForm then some <$> classFormMember t head name
    else
      let origin : Object := .fixed (.cls { package := head.package, name := head.name })
      match name with
      | "__origin__" => pure (some origin)
      | "__class__" => pure (some (.fixed t.classOf))
      | name =>
        match ← classMember? origin name with
        | some o => pure (some o)
        | none => throw (.noClassMember head.name name)
  | .union members =>
    if let some o ← argumentMember? t members name then return some o
    if name = "__origin__" then return some (form "Union")
    let own := if t.shown.startsWith "typing.Optional" then "Optional" else "Union"
    if name = "_name" then return some (if own = "Optional" then .text own else .none)
    some <$> notHandedOn t own name
  | .literal values =>
    if let some o ← argumentMember? t (values.map .ofConstant) name then return some o
    if name = "__origin__" then return some (form "Literal")
    some <$> notHandedOn t "Literal" name
  | .annotated base _ =>
    if let some o ← argumentMember? t [base] name then return some o
    if name = "__origin__" then some <$> Object.ofType base
    else some <$> notHandedOn t "Annotated" name
  | _ => pure none

/-! ### Members of all objects -/

/-- A member that the class of a value gives it. -/
def memberByClass? (o : Object) (name : String) : Evaluation (Option Object) := do
  let cls ← classOf o
  if name = "__class__" then return some cls
  if let some (_, f) ← inheritedMember? cls name then return some (← bindFunction o cls f)
  let c := (className? cls).getD madeName
  if name = "__module__" then
    if c.package != "" then return some (← packageOf cls)
  if let some o ← writtenClassData? c name then return some o
  if name = "__doc__" then return some (classDocumentation cls)
  match Predefined.findMember? (listedName (← predefinedBase cls)) name with
  | none => pure none
  | some (_, .absent) => pure (some .none)
  | some (owner, .ofClass) | some (owner, .free) => some <$> bindMember cls owner name
  | some (owner, _) => do some <$> bindMember (← plain o) owner name

/-- What a class holds itself, by its names. -/
def heldMembers (c : Object) : Evaluation (List (Object × Object)) := do
  let own ← match className? c, ← cellOf? c with
    | some d, _ => ownMembers d
    | none, some (.madeClass _ _ members) => pure members
    | none, _ => pure []
  (← heldNames c).mapM fun name => do
    let found ← match own.lookup name with
      | some o => pure (some o)
      | none => if name = "__dict__" then pure none else classMember? c name
    pure (.text name, found.getD .none)

/-- Entries that can be read but not changed. -/
def makeProxy (entries : List (Object × Object)) : Evaluation Object := do
  make (.instance (.builtinClass "mappingproxy") [(heldName, ← make (.dict entries))])

/-- The dictionary of an object, if it has one. That of a class cannot be changed. -/
def dictOf? (o : Object) : Evaluation (Option Object) := do
  if ← isClass o then return some (← makeProxy (← heldMembers o))
  let ofAttributes (attributes : List (String × Object)) : Evaluation (Option Object) := do
    let shown := attributes.filter fun e => !isHiddenName e.1
    some <$> make (.dict (shown.map fun e => (.text e.1, e.2)))
  match o, ← cellOf? o with
  | _, some (.instance cls attributes) =>
    if className? cls == some .object then pure none else ofAttributes attributes
  | _, some (.error _ _ _ attributes) => ofAttributes attributes
  | _, some (.closure _) => ofAttributes []
  | _, some (.written f) => some <$> typeDict f.attributes
  | .fixed (.other { kind := "module", name := some module, .. }), _ =>
    ofAttributes ((Predefined.moduleNames module).filterMap fun n =>
      (Predefined.moduleMember? module n).map fun o => (n, o))
  | _, _ => pure none

/-- The names under which a value that looks behind a class keeps that class and the value that
it looks at. -/
def superNames : String × String := (".start", ".own")

/-- A member that the classes behind a class in the lineage of a value give the value. -/
def memberBehind? (start own : Object) (name : String) : Evaluation (Option Object) := do
  let ownIsClass ← isClass own
  let isOfClass ← if ownIsClass then isDerived own start else pure false
  let cls ← if isOfClass then pure own else classOf own
  let row ← lineage maxLineage cls
  let keys := row.map classKey
  let behind := (row.zip keys).dropWhile fun e => e.2 != classKey start
  let found ← (behind.drop 1).findSomeM? fun (a, _) => do
    match className? a, ← cellOf? a with
    | some d, _ => ownMember? d name
    | none, some (.madeClass _ _ members) => pure (members.lookup name)
    | none, _ => pure none
  match found with
  | some f => some <$> if isOfClass then functionOfClass cls f else bindFunction own cls f
  | none =>
    let base ← ((behind.drop 1).head?.map Prod.fst).elim (pure ClassName.object) predefinedBase
    match Predefined.findMember? (listedName base) name with
    | none => pure none
    | some (_, .absent) => pure (some .none)
    | some (owner, .ofClass) | some (owner, .free) => some <$> bindMember cls owner name
    | some (owner, _) =>
      if isOfClass then pure (some (.memberOfClass owner name))
      else do some <$> bindMember (← plain own) owner name

/-- What stands behind a point after a value. -/
def memberOf (o : Object) (name : String) : Evaluation Object := do
  if let some (.instance _ ((".start", start) :: (".own", own) :: _)) ← cellOf? o then
    if name = "__thisclass__" then return start
    if name = "__self__" then return own
    if name = "__self_class__" then
      if ← isClass own then return own
      return ← classOf own
    if name != "__class__" then
      match ← memberBehind? start own name with
      | some member => return member
      | none => throw (.noMember "super" name)
  if name = "__dict__" then
    if let some dict ← dictOf? o then return dict
  if ← isClass o then
    match ← classMember? o name with
    | some member => pure member
    | none => throw (.noClassMember (← nameOf o) name)
  else
    if let .fixed t := o then
      if let some member ← formMember? t name then return member
    if let some member ← valueMember? o name then return member
    if let some member ← valueMember? (← plain o) name then return member
    match ← memberByClass? o name with
    | some member => pure member
    | none =>
      match o with
      | .fixed (.other { kind := "module", name := some module, .. }) =>
        raise "AttributeError" s!"module '{module}' has no attribute '{name}'"
      | o => throw (.noMember (← kindName o) name)

/-- What the member of a class that decides itself what it gives gives a value or a class. -/
def descriptorMember? (engine : Engine) (o cls : Object) (name : String) :
    Evaluation (Option Object) := do
  match ← inheritedMember? cls name with
  | none => pure none
  | some (_, f) =>
    match ← cellOf? f with
    | some (.property (getter :: _)) =>
      if o.isNone then return none
      if getter.isNone then
        raise "AttributeError" s!"property '{name}' of '{← kindName o}' object has no getter"
      some <$> engine.call getter { values := [o] }
    | some (.instance _ _) => special? engine f "__get__" [o, cls]
    | _ => pure none

/-- What stands behind a point after a value, as its class decides. -/
def memberWith (engine : Engine) (o : Object) (name : String) : Evaluation Object := do
  match ← cellOf? o with
  | some (.instance cls _) => do
    if let some member ← special? engine o "__getattribute__" [.text name] then return member
    if let some member ← descriptorMember? engine o cls name then return member
    match ← attempt? "AttributeError" (memberOf o name) with
    | some member => pure member
    | none =>
      match ← special? engine o "__getattr__" [.text name] with
      | some member => pure member
      | none => memberOf o name
  | some (.madeClass ..) =>
    match ← descriptorMember? engine .none o name with
    | some member => pure member
    | none => memberOf o name
  | _ => memberOf o name

/-- What stands between brackets behind a value whose class decides it. -/
def itemSpecial? (engine : Engine) (head index : Object) : Evaluation (Option Object) := do
  if ← isClass head then
    match ← inheritedMember? head "__class_getitem__" with
    | none => pure none
    | some (_, f) =>
      let f ← match ← cellOf? f with
        | some (.wrapped _ inner) => pure inner
        | _ => pure f
      some <$> engine.call f { values := [head, index] }
  else special? engine head "__getitem__" [index]

/-! ### Entering an evaluation -/

/-- A member of a known class as a value. -/
def ofKnownMember : KnownMember → Evaluation Object
  | .value t => Object.ofType t
  | .function f => make (.written f)
  | .staticFunction f => do make (.wrapped "staticmethod" (← make (.written f)))
  | .classFunction f => do make (.wrapped "classmethod" (← make (.written f)))
  | .property => make (.property [])
  | .nested c => pure (.fixed (.cls c))

/-- The members of a class as values. -/
def ofKnownMembers (c : KnownClass) : Evaluation (List (String × Object)) :=
  c.members.mapM fun e => do pure (e.1, ← ofKnownMember e.2)

/-- Makes the members of the known classes values. -/
def makeClassMembers : Evaluation Unit := do
  let members ← (← get).classes.mapM ofKnownMembers
  modify fun store => { store with classMembers := members }

/-- The names that every text may use, beside those that are predefined. Of the type
variables only one is among them. -/
def usualNames : List String :=
  ["str", "int", "float", "bool", "bytes", "list", "dict", "tuple", "set", "object", "Any", "URL",
   "Response", "T", "List", "Dict", "Optional", "Union"]

/-- What the texts of a function may name. -/
structure Namespace where
  /-- The name of the package. -/
  package : String
  /-- The classes that are known; of several with one name the last is found. -/
  classes : List KnownClass := []
  /-- Further names. -/
  names : List (String × TypeExpr) := []
  /-- The function itself, which is found under its own name. -/
  function? : Option KnownFunction := none

/-- The names of a namespace with what they stand for. -/
def Namespace.entries (n : Namespace) : Evaluation (List (String × Object)) := do
  let usual := usualNames.filterMap fun name =>
    (TypeExpr.ofName? name).map fun t => (name, Object.fixed t)
  let classes := n.classes.map fun c => (c.className.name, Object.fixed (.cls c.className))
  let names ← n.names.mapM fun e => do pure (e.1, ← Object.ofType e.2)
  let functions ← n.function?.toList.mapM fun f => do pure (f.name, ← make (.written f))
  pure (usual ++ classes ++ [("__name__", .text n.package)] ++ names ++ functions)

/-- Makes the names of a namespace the ones outside of all functions. -/
def Namespace.enter (n : Namespace) : Evaluation Unit := do
  let place ← make (.dict [])
  makeClassMembers
  let entries ← n.entries
  let map : OrderedMap String Object := .ofList entries
  if let .stored place := place then
    write place (.dict (map.entries.map fun e => (.text e.1, e.2)))
    modify fun store => { store with globals := place }

/-- An evaluation with the names of a namespace. -/
def runIn {α : Type} (n : Namespace) (x : Evaluation α) : Except TypeExprError α :=
  (do n.enter; x : Evaluation α).run' { classes := n.classes }

end HttpInterface.Evaluation
