import HttpInterface.Object
import HttpInterface.Predefined.Class
import HttpInterface.Predefined.ModuleTable
import HttpInterface.TypeExpr.Build

/-!
# `HttpInterface.Predefined.Module`: the modules that every text may name

A module is a value with members: functions, classes and constants. One of them holds all
that is predefined, one the forms of types, and the others are found by their names in a
table.
-/

set_option autoImplicit false

namespace HttpInterface.Predefined

/-! ### What is predefined -/

/-- What is said about all that is predefined. -/
def builtinsText : String :=
  "Built-in functions, exceptions, and other objects.\n\nNoteworthy: None is the `nil' " ++
    "object; Ellipsis represents `...' in slices."

/-- The constants that names stand for. -/
def constantNames : List (String × Constant) :=
  [("None", .null), ("True", .bool true), ("False", .bool false), ("__debug__", .bool true),
   ("Ellipsis", .ellipsis), ("__doc__", .text builtinsText), ("__package__", .text "")]

/-- What an operation gives that does not know its operands. -/
def notImplemented : Object :=
  .fixed (.other { kind := "NotImplementedType", name := none, text := "NotImplemented" })

/-- What a name stands for in every text. -/
def predefined? (name : String) : Option Object :=
  if valueClasses.contains name || isErrorClass name then some (.builtinClass name)
  else if name = "EnvironmentError" || name = "IOError" then some (.builtinClass "OSError")
  else if functionNames.contains name then some (.predefined name)
  else if name = "NotImplemented" then some notImplemented
  else if name = "__loader__" then
    some (.fixed (.cls { package := "_frozen_importlib", name := "BuiltinImporter" }))
  else
    match constantNames.lookup name with
    | some c => some (.fixed (.ofConstant c))
    | none =>
      (helperTexts.lookup name).map fun text =>
        .fixed (.other { kind := "helper", name := none, text })

/-- The names of all that is predefined, in order. -/
def predefinedNames : List String :=
  let names := valueClasses ++ errorClasses ++ ["EnvironmentError", "IOError"] ++
    functionNames ++ constantNames.map Prod.fst ++ helperTexts.map Prod.fst ++
    ["NotImplemented", "__loader__", "__name__", "__spec__"]
  (names.mergeSort fun a b => decide (a ≤ b)).eraseDups

/-! ### Modules -/

/-- The names of modules whose members are not listed. -/
def otherModules : List String :=
  namesIn ("ast asyncio base64 bisect codecs csv email hashlib heapq html keyword pickle queue " ++
    "shutil socket statistics struct subprocess tempfile textwrap threading traceback " ++
    "unicodedata weakref zlib")

/-- There is a module of this name. -/
def isModule (name : String) : Bool :=
  ["builtins", "typing", "httpx"].contains name || (moduleTable.lookup name).isSome ||
    otherModules.contains name

/-- The modules that may have others within them. -/
def packageNames : List String :=
  ["asyncio", "collections", "email", "html", "http", "httpx", "json", "logging", "re", "urllib"]

/-- A module as a value. -/
def moduleObject (name : String) : Object :=
  let place := if name = "builtins" then " (built-in)" else ""
  .fixed (.other { kind := "module", name := some name, text := s!"<module '{name}'{place}>" })

/-- The own name of a module within another one. -/
def innerModule (module name : String) : String :=
  if module = "os" then "posixpath" else module ++ "." ++ name

/-- The classes of the messages that a module holds. -/
def messageNames : List String := ["URL", "Response"]

/-- The other classes of the package of messages. -/
def messageClasses : String :=
  "ASGITransport AsyncBaseTransport AsyncByteStream AsyncClient AsyncHTTPTransport Auth " ++
    "BaseTransport BasicAuth ByteStream Client CloseError ConnectError ConnectTimeout " ++
    "CookieConflict Cookies DecodingError DigestAuth HTTPError HTTPStatusError HTTPTransport " ++
    "Headers InvalidURL Limits LocalProtocolError MockTransport NetworkError PoolTimeout " ++
    "ProtocolError Proxy ProxyError QueryParams ReadError ReadTimeout RemoteProtocolError " ++
    "Request RequestError RequestNotRead ResponseNotRead StreamClosed StreamConsumed " ++
    "StreamError SyncByteStream Timeout TimeoutException TooManyRedirects TransportError " ++
    "UnsupportedProtocol WSGITransport WriteError WriteTimeout"

/-- The functions of the package of messages. -/
def messageFunctions : String :=
  "create_ssl_context delete get head options patch post put request stream"

/-- The classes of the module of the forms of types. -/
def typingClasses : List String :=
  namesIn ("Annotated BinaryIO ForwardRef Generic IO NewType ParamSpec ParamSpecArgs " ++
    "ParamSpecKwargs Protocol SupportsAbs SupportsBytes SupportsComplex SupportsFloat " ++
    "SupportsIndex SupportsInt SupportsRound TextIO TypeVar TypeVarTuple")

/-- The functions of the module of the forms of types. -/
def typingFunctions : List String :=
  namesIn ("NamedTuple TypedDict assert_never assert_type cast clear_overloads " ++
    "dataclass_transform final get_args get_origin get_overloads get_type_hints " ++
    "is_typeddict no_type_check no_type_check_decorator overload reveal_type " ++
    "runtime_checkable")

/-- A class of the module of the forms of types. A file takes the type of what it holds. -/
def typingClass (name : String) : TypeExpr :=
  .cls
    { package := "typing"
      name
      typeVariables := if name = "IO" then some ["AnyStr"] else none }

/-- A member of the module of the forms of types. -/
def typingMember? (name : String) : Option Object :=
  let form (origin : String) : Object := .fixed (.bare (.ofForm name origin))
  if let some f := ClassForm.find? name then some (form f.origin)
  else if (TypeHead.soleForms ++ TypeHead.partForms).contains name then some (form name)
  else if typingClasses.contains name then some (.fixed (typingClass name))
  else if typingFunctions.contains name then some (.moduleFunction "function" "typing" name)
  else
    match name with
    | "Any" => some (.fixed TypeExpr.any)
    | "AnyStr" => some (.fixed (.typeVar name))
    | "Text" => some (.builtinClass "str")
    | "TYPE_CHECKING" => some (.bool false)
    | _ => none

/-- A class by its package, or a predefined one. -/
def classOfPackage (package name : String) : Object :=
  if package.isEmpty && name = "NoneType" then .fixed .noneType
  else .fixed (.cls { package, name })

/-- A member of a module that lists what it holds. -/
def listedInModule? (module name : String) : Option Object := do
  let members ← moduleTable.lookup module
  let functions :=
    [("function", members.written), ("builtin_function_or_method", members.builtIn),
     ("method", members.methods)]
  if let some (kind, _) := functions.find? fun e => (namesIn e.2).contains name then
    pure (.moduleFunction kind module name)
  else if let some (package, _) :=
      members.classes.find? fun e => (namesIn e.2).contains name then
    pure (classOfPackage package name)
  else if let some (package, own) := members.aliases.lookup name then
    pure (classOfPackage package own)
  else if (namesIn members.inner).contains name then
    pure (moduleObject (innerModule module name))
  else do
    let c ← members.constants.lookup name
    pure (.fixed (.ofConstant c))

/-- A member of the package of messages. -/
def messageMember? (name : String) : Option Object :=
  if messageNames.contains name then (TypeExpr.ofName? name).map Object.fixed
  else if (namesIn messageClasses).contains name then some (classOfPackage "httpx" name)
  else if (namesIn messageFunctions).contains name then
    some (.moduleFunction "function" "httpx" name)
  else none

/-- A member of a module. -/
def moduleMember? (module name : String) : Option Object :=
  if name = "__name__" then some (.text module)
  else if name = "__package__" then some (.text (if module = "builtins" then "" else module))
  else if module = "builtins" then predefined? name
  else if module = "typing" then typingMember? name
  else if module = "httpx" then messageMember? name
  else listedInModule? module name

/-- The names of the members of a module. -/
def moduleNames (module : String) : List String :=
  let own :=
    if module = "builtins" then predefinedNames
    else if module = "typing" then
      ClassForm.all.map ClassForm.name ++ TypeHead.soleForms ++ TypeHead.partForms ++
        typingClasses ++ typingFunctions ++ ["Any", "AnyStr", "Text", "TYPE_CHECKING"]
    else if module = "httpx" then
      messageNames ++ namesIn messageClasses ++ namesIn messageFunctions
    else
      match moduleTable.lookup module with
      | some m =>
        namesIn m.written ++ namesIn m.builtIn ++ namesIn m.methods ++
          (m.classes.flatMap fun e => namesIn e.2) ++ m.aliases.map Prod.fst ++
          namesIn m.inner ++ m.constants.map Prod.fst
      | none => []
  let shown := own.filter fun name => !name.isEmpty
  (shown ++ ["__doc__", "__loader__", "__name__", "__package__", "__spec__"]).eraseDups

end HttpInterface.Predefined
