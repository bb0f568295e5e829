/-!
# `HttpInterface.Predefined.Class`: the classes that every text may name

Every class is derived from another one, up to `object`. The members of its values are
known by their names, and so is what sort of member each is: a method that is called by
its name, one that stands behind an operator, a value, or one that belongs to the class
itself. `memberTable` lists them class by class, without those of the classes that a
class is derived from.
-/

set_option autoImplicit false

namespace HttpInterface.Predefined

/-- What sort of member a class has. -/
inductive MemberSort where
  | method
  /-- A method behind an operator or another piece of grammar. -/
  | operator
  /-- A value that is found out when it is asked for. -/
  | attribute
  /-- A value that is kept. -/
  | field
  /-- A method that takes the class in front. -/
  | ofClass
  /-- A function that takes nothing in front. -/
  | free
  /-- A function that is written out. -/
  | function
  /-- A value that a function finds out. -/
  | property
  /-- A member that a class says it does not have. -/
  | absent
  deriving DecidableEq, Repr

/-- The names of the members of a class, sort by sort, with blanks between them. -/
structure ClassMembers where
  methods : String := ""
  operators : String := ""
  attributes : String := ""
  fields : String := ""
  ofClass : String := ""
  free : String := ""
  functions : String := ""
  properties : String := ""
  absent : String := ""

/-- The names in a text. -/
def namesIn (names : String) : List String := names.splitOn " "

/-- The sorts with the names of a class. -/
def ClassMembers.sorts (m : ClassMembers) : List (MemberSort × String) :=
  [(.method, m.methods), (.operator, m.operators), (.attribute, m.attributes),
   (.field, m.fields), (.ofClass, m.ofClass), (.free, m.free), (.function, m.functions),
   (.property, m.properties), (.absent, m.absent)]

/-- The sort of a member. -/
def ClassMembers.sortOf? (m : ClassMembers) (name : String) : Option MemberSort :=
  (m.sorts.find? fun e => (namesIn e.2).contains name).map Prod.fst

/-- The members of the predefined classes. -/
def memberTable : List (String × ClassMembers) := [
  ("object",
    { methods := "__reduce_ex__ __reduce__ __getstate__ __format__ __sizeof__ __dir__"
      operators := "__repr__ __hash__ __str__ __getattribute__ __setattr__ __delattr__ " ++
        "__lt__ __le__ __eq__ __ne__ __gt__ __ge__ __init__"
      attributes := "__class__"
      ofClass := "__subclasshook__ __init_subclass__"
      free := "__new__" }),
  ("Generic", { ofClass := "__class_getitem__ __init_subclass__" }),
  ("type",
    { methods := "mro __subclasses__ __instancecheck__ __subclasscheck__ __dir__ __sizeof__"
      operators := "__repr__ __call__ __getattribute__ __setattr__ __delattr__ __init__ " ++
        "__or__ __ror__"
      attributes := "__name__ __qualname__ __bases__ __module__ __abstractmethods__ __dict__ " ++
        "__text_signature__ __annotations__"
      fields := "__basicsize__ __itemsize__ __flags__ __weakrefoffset__ __dictoffset__ " ++
        "__base__ __mro__"
      ofClass := "__prepare__" }),
  ("int",
    { methods := "conjugate bit_length bit_count to_bytes as_integer_ratio __trunc__ " ++
        "__floor__ __ceil__ __round__ __getnewargs__ __format__ __sizeof__"
      operators := "__repr__ __hash__ __getattribute__ __lt__ __le__ __eq__ __ne__ __gt__ " ++
        "__ge__ __add__ __radd__ __sub__ __rsub__ __mul__ __rmul__ __mod__ __rmod__ " ++
        "__divmod__ __rdivmod__ __pow__ __rpow__ __neg__ __pos__ __abs__ __bool__ __invert__ " ++
        "__lshift__ __rlshift__ __rshift__ __rrshift__ __and__ __rand__ __xor__ __rxor__ " ++
        "__or__ __ror__ __int__ __float__ __floordiv__ __rfloordiv__ __truediv__ " ++
        "__rtruediv__ __index__"
      attributes := "real imag numerator denominator"
      ofClass := "from_bytes" }),
  ("bool",
    { operators := "__repr__ __and__ __rand__ __xor__ __rxor__ __or__ __ror__" }),
  ("float",
    { methods := "conjugate __trunc__ __floor__ __ceil__ __round__ as_integer_ratio hex " ++
        "is_integer __getnewargs__ __format__"
      operators := "__repr__ __hash__ __getattribute__ __lt__ __le__ __eq__ __ne__ __gt__ " ++
        "__ge__ __add__ __radd__ __sub__ __rsub__ __mul__ __rmul__ __mod__ __rmod__ " ++
        "__divmod__ __rdivmod__ __pow__ __rpow__ __neg__ __pos__ __abs__ __bool__ __int__ " ++
        "__float__ __floordiv__ __rfloordiv__ __truediv__ __rtruediv__"
      attributes := "real imag"
      ofClass := "fromhex __getformat__" }),
  ("complex",
    { methods := "conjugate __complex__ __getnewargs__ __format__"
      operators := "__repr__ __hash__ __getattribute__ __lt__ __le__ __eq__ __ne__ __gt__ " ++
        "__ge__ __add__ __radd__ __sub__ __rsub__ __mul__ __rmul__ __pow__ __rpow__ __neg__ " ++
        "__pos__ __abs__ __bool__ __truediv__ __rtruediv__"
      fields := "real imag" }),
  ("str",
    { methods := "encode replace split rsplit join capitalize casefold title center count " ++
        "expandtabs find partition index ljust lower lstrip rfind rindex rjust rstrip " ++
        "rpartition splitlines strip swapcase translate upper startswith endswith " ++
        "removeprefix removesuffix isascii islower isupper istitle isspace isdecimal isdigit " ++
        "isnumeric isalpha isalnum isidentifier isprintable zfill format format_map " ++
        "__format__ __sizeof__ __getnewargs__"
      operators := "__repr__ __hash__ __str__ __getattribute__ __lt__ __le__ __eq__ __ne__ " ++
        "__gt__ __ge__ __iter__ __mod__ __rmod__ __len__ __getitem__ __add__ __mul__ " ++
        "__rmul__ __contains__"
      free := "maketrans" }),
  ("bytes",
    { methods := "__getnewargs__ __bytes__ capitalize center count decode endswith " ++
        "expandtabs find hex index isalnum isalpha isascii isdigit islower isspace istitle " ++
        "isupper join ljust lower lstrip partition replace removeprefix removesuffix rfind " ++
        "rindex rjust rpartition rsplit rstrip split splitlines startswith strip swapcase " ++
        "title translate upper zfill"
      operators := "__repr__ __hash__ __str__ __getattribute__ __lt__ __le__ __eq__ __ne__ " ++
        "__gt__ __ge__ __iter__ __mod__ __rmod__ __len__ __getitem__ __add__ __mul__ " ++
        "__rmul__ __contains__"
      ofClass := "fromhex"
      free := "maketrans" }),
  ("bytearray",
    { methods := "__alloc__ __reduce__ __reduce_ex__ __sizeof__ append capitalize center " ++
        "clear copy count decode endswith expandtabs extend find hex index insert isalnum " ++
        "isalpha isascii isdigit islower isspace istitle isupper join ljust lower lstrip " ++
        "partition pop remove replace removeprefix removesuffix reverse rfind rindex rjust " ++
        "rpartition rsplit rstrip split splitlines startswith strip swapcase title translate " ++
        "upper zfill"
      operators := "__repr__ __str__ __getattribute__ __lt__ __le__ __eq__ __ne__ __gt__ " ++
        "__ge__ __iter__ __init__ __mod__ __rmod__ __len__ __getitem__ __setitem__ " ++
        "__delitem__ __add__ __mul__ __rmul__ __contains__ __iadd__ __imul__"
      ofClass := "fromhex"
      free := "maketrans"
      absent := "__hash__" }),
  ("list",
    { methods := "__getitem__ __reversed__ __sizeof__ clear copy append insert extend pop " ++
        "remove index count reverse sort"
      operators := "__repr__ __getattribute__ __lt__ __le__ __eq__ __ne__ __gt__ __ge__ " ++
        "__iter__ __init__ __len__ __setitem__ __delitem__ __add__ __mul__ __rmul__ " ++
        "__contains__ __iadd__ __imul__"
      ofClass := "__class_getitem__"
      absent := "__hash__" }),
  ("tuple",
    { methods := "__getnewargs__ index count"
      operators := "__repr__ __hash__ __getattribute__ __lt__ __le__ __eq__ __ne__ __gt__ " ++
        "__ge__ __iter__ __len__ __getitem__ __add__ __mul__ __rmul__ __contains__"
      ofClass := "__class_getitem__" }),
  ("dict",
    { methods := "__getitem__ __contains__ __sizeof__ get setdefault pop popitem keys items " ++
        "values update clear copy __reversed__"
      operators := "__repr__ __getattribute__ __lt__ __le__ __eq__ __ne__ __gt__ __ge__ " ++
        "__iter__ __init__ __or__ __ror__ __ior__ __len__ __setitem__ __delitem__"
      ofClass := "fromkeys __class_getitem__"
      absent := "__hash__" }),
  ("set",
    { methods := "__contains__ add clear copy discard difference difference_update " ++
        "intersection intersection_update isdisjoint issubset issuperset pop __reduce__ " ++
        "remove __sizeof__ symmetric_difference symmetric_difference_update union update"
      operators := "__repr__ __getattribute__ __lt__ __le__ __eq__ __ne__ __gt__ __ge__ " ++
        "__iter__ __init__ __sub__ __rsub__ __and__ __rand__ __xor__ __rxor__ __or__ __ror__ " ++
        "__isub__ __iand__ __ixor__ __ior__ __len__"
      ofClass := "__class_getitem__"
      absent := "__hash__" }),
  ("frozenset",
    { methods := "__contains__ copy difference intersection isdisjoint issubset issuperset " ++
        "__reduce__ __sizeof__ symmetric_difference union"
      operators := "__repr__ __hash__ __getattribute__ __lt__ __le__ __eq__ __ne__ __gt__ " ++
        "__ge__ __iter__ __sub__ __rsub__ __and__ __rand__ __xor__ __rxor__ __or__ __ror__ " ++
        "__len__"
      ofClass := "__class_getitem__" }),
  ("range",
    { methods := "__reversed__ __reduce__ count index"
      operators := "__repr__ __hash__ __getattribute__ __lt__ __le__ __eq__ __ne__ __gt__ " ++
        "__ge__ __iter__ __bool__ __len__ __getitem__ __contains__"
      fields := "start stop step" }),
  ("slice",
    { methods := "indices __reduce__"
      operators := "__repr__ __getattribute__ __lt__ __le__ __eq__ __ne__ __gt__ __ge__"
      fields := "start stop step"
      absent := "__hash__" }),
  ("property",
    { methods := "getter setter deleter __set_name__"
      operators := "__getattribute__ __get__ __set__ __delete__ __init__"
      attributes := "__isabstractmethod__"
      fields := "fget fset fdel" }),
  ("staticmethod",
    { operators := "__repr__ __call__ __get__ __init__"
      attributes := "__isabstractmethod__ __dict__"
      fields := "__func__ __wrapped__" }),
  ("classmethod",
    { operators := "__repr__ __get__ __init__"
      attributes := "__isabstractmethod__ __dict__"
      fields := "__func__ __wrapped__" }),
  ("map",
    { methods := "__reduce__"
      operators := "__getattribute__ __iter__ __next__" }),
  ("filter",
    { methods := "__reduce__"
      operators := "__getattribute__ __iter__ __next__" }),
  ("zip",
    { methods := "__reduce__ __setstate__"
      operators := "__getattribute__ __iter__ __next__" }),
  ("enumerate",
    { methods := "__reduce__"
      operators := "__getattribute__ __iter__ __next__"
      ofClass := "__class_getitem__" }),
  ("reversed",
    { methods := "__length_hint__ __reduce__ __setstate__"
      operators := "__getattribute__ __iter__ __next__" }),
  ("super",
    { operators := "__repr__ __getattribute__ __get__ __init__"
      fields := "__thisclass__ __self__ __self_class__" }),
  ("memoryview",
    { methods := "release tobytes hex tolist cast toreadonly __enter__ __exit__"
      operators := "__repr__ __hash__ __getattribute__ __lt__ __le__ __eq__ __ne__ __gt__ " ++
        "__ge__ __iter__ __len__ __getitem__ __setitem__ __delitem__"
      attributes := "obj nbytes readonly itemsize format ndim shape strides suboffsets " ++
        "c_contiguous f_contiguous contiguous" }),
  ("BaseException",
    { methods := "__reduce__ __setstate__ with_traceback add_note"
      operators := "__repr__ __str__ __getattribute__ __setattr__ __delattr__ __init__"
      attributes := "__dict__ args __traceback__ __context__ __cause__"
      fields := "__suppress_context__" }),
  ("NoneType",
    { operators := "__repr__ __bool__" }),
  ("ellipsis",
    { methods := "__reduce__"
      operators := "__repr__ __getattribute__" }),
  ("NotImplementedType",
    { methods := "__reduce__"
      operators := "__repr__ __bool__" }),
  ("function",
    { operators := "__repr__ __call__ __get__"
      attributes := "__code__ __defaults__ __kwdefaults__ __annotations__ __dict__ __name__ " ++
        "__qualname__"
      fields := "__closure__ __globals__ __module__ __builtins__" }),
  ("builtin_function_or_method",
    { methods := "__reduce__"
      operators := "__repr__ __hash__ __call__ __getattribute__ __lt__ __le__ __eq__ __ne__ " ++
        "__gt__ __ge__"
      attributes := "__name__ __qualname__ __self__ __text_signature__"
      fields := "__module__" }),
  ("method",
    { methods := "__reduce__"
      operators := "__repr__ __hash__ __call__ __getattribute__ __setattr__ __delattr__ " ++
        "__lt__ __le__ __eq__ __ne__ __gt__ __ge__"
      fields := "__func__ __self__" }),
  ("generator",
    { methods := "send throw close __sizeof__"
      operators := "__repr__ __getattribute__ __iter__ __next__ __del__"
      attributes := "__name__ __qualname__ gi_yieldfrom gi_running gi_frame gi_suspended"
      fields := "gi_code" }),
  ("method_descriptor",
    { methods := "__reduce__"
      operators := "__repr__ __call__ __getattribute__ __get__"
      attributes := "__qualname__ __text_signature__"
      fields := "__objclass__ __name__" }),
  ("wrapper_descriptor",
    { methods := "__reduce__"
      operators := "__repr__ __call__ __getattribute__ __get__"
      attributes := "__qualname__ __text_signature__"
      fields := "__objclass__ __name__" }),
  ("method-wrapper",
    { methods := "__reduce__"
      operators := "__repr__ __hash__ __call__ __getattribute__ __lt__ __le__ __eq__ __ne__ " ++
        "__gt__ __ge__"
      attributes := "__objclass__ __name__ __qualname__ __text_signature__"
      fields := "__self__" }),
  ("getset_descriptor",
    { operators := "__repr__ __getattribute__ __get__ __set__ __delete__"
      attributes := "__qualname__"
      fields := "__objclass__ __name__" }),
  ("member_descriptor",
    { methods := "__reduce__"
      operators := "__repr__ __getattribute__ __get__ __set__ __delete__"
      attributes := "__qualname__"
      fields := "__objclass__ __name__" }),
  ("classmethod_descriptor",
    { operators := "__repr__ __call__ __getattribute__ __get__"
      attributes := "__qualname__ __text_signature__"
      fields := "__objclass__ __name__" }),
  ("dict_keys",
    { methods := "isdisjoint __reversed__"
      operators := "__repr__ __getattribute__ __lt__ __le__ __eq__ __ne__ __gt__ __ge__ " ++
        "__iter__ __sub__ __rsub__ __and__ __rand__ __xor__ __rxor__ __or__ __ror__ __len__ " ++
        "__contains__"
      attributes := "mapping"
      absent := "__hash__" }),
  ("dict_values",
    { methods := "__reversed__"
      operators := "__repr__ __getattribute__ __iter__ __len__"
      attributes := "mapping" }),
  ("dict_items",
    { methods := "isdisjoint __reversed__"
      operators := "__repr__ __getattribute__ __lt__ __le__ __eq__ __ne__ __gt__ __ge__ " ++
        "__iter__ __sub__ __rsub__ __and__ __rand__ __xor__ __rxor__ __or__ __ror__ __len__ " ++
        "__contains__"
      attributes := "mapping"
      absent := "__hash__" }),
  ("list_iterator",
    { methods := "__length_hint__ __reduce__ __setstate__"
      operators := "__getattribute__ __iter__ __next__" }),
  ("tuple_iterator",
    { methods := "__length_hint__ __reduce__ __setstate__"
      operators := "__getattribute__ __iter__ __next__" }),
  ("str_ascii_iterator",
    { methods := "__length_hint__ __reduce__ __setstate__"
      operators := "__getattribute__ __iter__ __next__" }),
  ("str_iterator",
    { methods := "__length_hint__ __reduce__ __setstate__"
      operators := "__getattribute__ __iter__ __next__" }),
  ("bytes_iterator",
    { methods := "__length_hint__ __reduce__ __setstate__"
      operators := "__getattribute__ __iter__ __next__" }),
  ("bytearray_iterator",
    { methods := "__length_hint__ __reduce__ __setstate__"
      operators := "__getattribute__ __iter__ __next__" }),
  ("range_iterator",
    { methods := "__length_hint__ __reduce__ __setstate__"
      operators := "__getattribute__ __iter__ __next__" }),
  ("longrange_iterator",
    { methods := "__length_hint__ __reduce__ __setstate__"
      operators := "__getattribute__ __iter__ __next__" }),
  ("set_iterator",
    { methods := "__length_hint__ __reduce__"
      operators := "__getattribute__ __iter__ __next__" }),
  ("dict_keyiterator",
    { methods := "__length_hint__ __reduce__"
      operators := "__getattribute__ __iter__ __next__" }),
  ("dict_valueiterator",
    { methods := "__length_hint__ __reduce__"
      operators := "__getattribute__ __iter__ __next__" }),
  ("dict_itemiterator",
    { methods := "__length_hint__ __reduce__"
      operators := "__getattribute__ __iter__ __next__" }),
  ("list_reverseiterator",
    { methods := "__length_hint__ __reduce__ __setstate__"
      operators := "__getattribute__ __iter__ __next__" }),
  ("callable_iterator",
    { methods := "__reduce__"
      operators := "__getattribute__ __iter__ __next__" }),
  ("dict_reversekeyiterator",
    { methods := "__length_hint__ __reduce__"
      operators := "__iter__ __next__" }),
  ("mappingproxy",
    { methods := "get keys values items copy __reversed__"
      operators := "__repr__ __str__ __getattribute__ __len__ __getitem__ __contains__ " ++
        "__iter__ __or__ __ror__ __ior__ __lt__ __le__ __eq__ __ne__ __gt__ __ge__"
      ofClass := "__class_getitem__" }),
  ("AttributeError",
    { fields := "name obj" }),
  ("BaseExceptionGroup",
    { methods := "derive split subgroup"
      fields := "message exceptions"
      ofClass := "__class_getitem__" }),
  ("ImportError",
    { methods := "__reduce__"
      fields := "msg name path" }),
  ("NameError",
    { fields := "name" }),
  ("OSError",
    { methods := "__reduce__"
      attributes := "characters_written"
      fields := "errno strerror filename filename2" }),
  ("StopIteration",
    { fields := "value" }),
  ("SyntaxError",
    { fields := "msg filename lineno offset text end_lineno end_offset print_file_and_line" }),
  ("SystemExit",
    { fields := "code" }),
  ("UnicodeDecodeError",
    { fields := "encoding object start end reason" }),
  ("UnicodeEncodeError",
    { fields := "encoding object start end reason" }),
  ("UnicodeTranslateError",
    { fields := "encoding object start end reason" }),
  ("URL",
    { functions := "__init__ __hash__ __eq__ __str__ __repr__ copy_add_param " ++
        "copy_merge_params copy_remove_param copy_set_param copy_with join"
      properties := "fragment host is_absolute_url is_relative_url netloc params password " ++
        "path port query raw raw_host raw_path raw_scheme scheme userinfo username" }),
  ("Response",
    { functions := "__getstate__ __init__ __repr__ __setstate__ aclose aiter_bytes " ++
        "aiter_lines aiter_raw aiter_text aread close iter_bytes iter_lines iter_raw " ++
        "iter_text json raise_for_status read"
      properties := "charset_encoding content cookies elapsed encoding has_redirect_location " ++
        "http_version is_client_error is_error is_informational is_redirect is_server_error " ++
        "is_success links num_bytes_downloaded reason_phrase request text url" })]

/-- The classes that are derived from others than `object`, by these. -/
def derivedTable : List (String × String) :=
  [("Exception",
     "ArithmeticError AssertionError AttributeError BufferError EOFError ImportError " ++
     "LookupError MemoryError NameError OSError ReferenceError RuntimeError " ++
     "StopAsyncIteration StopIteration SyntaxError SystemError TypeError ValueError Warning"),
   ("BaseException",
     "BaseExceptionGroup Exception GeneratorExit KeyboardInterrupt SystemExit"),
   ("OSError",
     "BlockingIOError ChildProcessError ConnectionError FileExistsError FileNotFoundError " ++
     "InterruptedError IsADirectoryError NotADirectoryError PermissionError " ++
     "ProcessLookupError TimeoutError"),
   ("ConnectionError",
     "BrokenPipeError ConnectionAbortedError ConnectionRefusedError ConnectionResetError"),
   ("Warning",
     "BytesWarning DeprecationWarning EncodingWarning FutureWarning ImportWarning " ++
     "PendingDeprecationWarning ResourceWarning RuntimeWarning SyntaxWarning UnicodeWarning " ++
     "UserWarning"),
   ("ArithmeticError", "FloatingPointError OverflowError ZeroDivisionError"),
   ("SyntaxError", "IndentationError"),
   ("LookupError", "IndexError KeyError"),
   ("ImportError", "ModuleNotFoundError"),
   ("RuntimeError", "NotImplementedError RecursionError"),
   ("IndentationError", "TabError"),
   ("NameError", "UnboundLocalError"),
   ("UnicodeError", "UnicodeDecodeError UnicodeEncodeError UnicodeTranslateError"),
   ("ValueError", "UnicodeError"),
   ("int", "bool")]

/-- The classes of values. -/
def valueClasses : List String :=
  namesIn ("bool bytearray bytes classmethod complex dict enumerate filter float frozenset " ++
    "int list map memoryview object property range reversed set slice staticmethod str super " ++
    "tuple type zip")

/-- The classes of errors and warnings. -/
def errorClasses : List String :=
  "BaseException" :: "ExceptionGroup" ::
    (derivedTable.filter fun e => e.1 != "int").flatMap fun e => namesIn e.2

/-- The class that a class is derived from first; `object` is derived from none. -/
def baseOf? (name : String) : Option String :=
  if name = "object" then none
  else if name = "ExceptionGroup" then some "BaseExceptionGroup"
  else
    some (((derivedTable.find? fun e => (namesIn e.2).contains name).map Prod.fst).getD "object")

/-- The bases of a class. -/
def basesOf (name : String) : List String :=
  if name = "ExceptionGroup" then ["BaseExceptionGroup", "Exception"]
  else (baseOf? name).toList

/-- A class and all that it is derived from; `fuel` bounds how many these are. -/
def ancestorsWithin (fuel : Nat) (name : String) : List String :=
  match fuel, baseOf? name with
  | fuel + 1, some base => name :: ancestorsWithin fuel base
  | _, _ => [name]

/-- A class and all that it is derived from, itself first. -/
def ancestors (name : String) : List String :=
  if name = "ExceptionGroup" then
    ["ExceptionGroup", "BaseExceptionGroup", "Exception", "BaseException", "object"]
  else ancestorsWithin 10 name

/-- The class stands for errors. -/
def isErrorClass (name : String) : Bool := errorClasses.contains name

/-- The class among a class and its ancestors that has a member, and the sort of the
member. -/
def findMember? (className name : String) : Option (String × MemberSort) :=
  (ancestors className).findSome? fun owner => do
    let members ← memberTable.lookup owner
    let sort ← members.sortOf? name
    pure (owner, sort)

/-- The predefined functions. -/
def functionNames : List String :=
  namesIn ("__build_class__ __import__ abs aiter all anext any ascii bin breakpoint callable " ++
    "chr compile delattr dir divmod eval exec format getattr globals hasattr hash hex id input " ++
    "isinstance issubclass iter len locals max min next oct open ord pow print repr round " ++
    "setattr sorted sum vars")

/-- The names of things that only help a reader, with their texts. -/
def helperTexts : List (String × String) :=
  [("exit", "Use exit() or Ctrl-D (i.e. EOF) to exit"),
   ("quit", "Use quit() or Ctrl-D (i.e. EOF) to exit"),
   ("help", "Type help() for interactive help, or help(object) for help about object."),
   ("license", "Type license() to see the full license text")]

end HttpInterface.Predefined
