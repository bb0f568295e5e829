/-!
# `HttpInterface.Predefined.Documentation`: what predefined names say they are

Classes and functions that are predefined tell a reader what they are for.
-/

set_option autoImplicit false

namespace HttpInterface.Predefined

/-- What classes say of their values. -/
def classTexts : List (String × String) := [
  ("bool",
    "bool(x) -> bool\n\nReturns True when the argument x is true, False otherwise.\nThe " ++
    "builtins True and False are the only two instances of the class bool.\nThe class bool is" ++
    " a subclass of the class int, and cannot be subclassed."),
  ("bytearray",
    "bytearray(iterable_of_ints) -> bytearray\nbytearray(string, encoding[, errors]) -> " ++
    "bytearray\nbytearray(bytes_or_buffer) -> mutable copy of bytes_or_buffer\nbytearray(int)" ++
    " -> bytes array of size given by the parameter initialized with null bytes\nbytearray() " ++
    "-> empty bytes array\n\nConstruct a mutable bytearray object from:\n  - an iterable " ++
    "yielding integers in range(256)\n  - a text string encoded using the specified encoding" ++
    "\n  - a bytes or a buffer object\n  - any object implementing the buffer API.\n  - an " ++
    "integer"),
  ("bytes",
    "bytes(iterable_of_ints) -> bytes\nbytes(string, encoding[, errors]) -> bytes\n" ++
    "bytes(bytes_or_buffer) -> immutable copy of bytes_or_buffer\nbytes(int) -> bytes object " ++
    "of size given by the parameter initialized with null bytes\nbytes() -> empty bytes " ++
    "object\n\nConstruct an immutable array of bytes from:\n  - an iterable yielding integers" ++
    " in range(256)\n  - a text string encoded using the specified encoding\n  - any object " ++
    "implementing the buffer API.\n  - an integer"),
  ("complex",
    "Create a complex number from a real part and an optional imaginary part.\n\nThis is " ++
    "equivalent to (real + imag*1j) where imag defaults to 0."),
  ("dict",
    "dict() -> new empty dictionary\ndict(mapping) -> new dictionary initialized from a " ++
    "mapping object's\n    (key, value) pairs\ndict(iterable) -> new dictionary initialized " ++
    "as if via:\n    d = \x7b\x7d\n    for k, v in iterable:\n        d[k] = v\n" ++
    "dict(**kwargs) -> new dictionary initialized with the name=value pairs\n    in the " ++
    "keyword argument list.  For example:  dict(one=1, two=2)"),
  ("enumerate",
    "Return an enumerate object.\n\n  iterable\n    an object supporting iteration\n\nThe " ++
    "enumerate object yields pairs containing a count (from start, which\ndefaults to zero) " ++
    "and a value yielded by the iterable argument.\n\nenumerate is useful for obtaining an " ++
    "indexed list:\n    (0, seq[0]), (1, seq[1]), (2, seq[2]), ..."),
  ("filter",
    "filter(function or None, iterable) --> filter object\n\nReturn an iterator yielding " ++
    "those items of iterable for which function(item)\nis true. If function is None, return " ++
    "the items that are true."),
  ("float",
    "Convert a string or number to a floating point number, if possible."),
  ("frozenset",
    "frozenset() -> empty frozenset object\nfrozenset(iterable) -> frozenset object\n\nBuild " ++
    "an immutable unordered collection of unique elements."),
  ("int",
    "int([x]) -> integer\nint(x, base=10) -> integer\n\nConvert a number or string to an " ++
    "integer, or return 0 if no arguments\nare given.  If x is a number, return x.__int__(). " ++
    " For floating point\nnumbers, this truncates towards zero.\n\nIf x is not a number or if" ++
    " base is given, then x must be a string,\nbytes, or bytearray instance representing an " ++
    "integer literal in the\ngiven base.  The literal can be preceded by '+' or '-' and be " ++
    "surrounded\nby whitespace.  The base defaults to 10.  Valid bases are 0 and 2-36.\nBase " ++
    "0 means to interpret the base from the string as an integer literal.\n>>> int('0b100', " ++
    "base=0)\n4"),
  ("list",
    "Built-in mutable sequence.\n\nIf no argument is given, the constructor creates a new " ++
    "empty list.\nThe argument must be an iterable if specified."),
  ("map",
    "map(func, *iterables) --> map object\n\nMake an iterator that computes the function " ++
    "using arguments from\neach of the iterables.  Stops when the shortest iterable is " ++
    "exhausted."),
  ("memoryview",
    "Create a new memoryview object which references the given object."),
  ("object",
    "The base class of the class hierarchy.\n\nWhen called, it accepts no arguments and " ++
    "returns a new featureless\ninstance that has no instance attributes and cannot be given " ++
    "any.\n"),
  ("property",
    "Property attribute.\n\n  fget\n    function to be used for getting an attribute value\n " ++
    " fset\n    function to be used for setting an attribute value\n  fdel\n    function to " ++
    "be used for del'ing an attribute\n  doc\n    docstring\n\nTypical use is to define a " ++
    "managed attribute x:\n\nclass C(object):\n    def getx(self): return self._x\n    def " ++
    "setx(self, value): self._x = value\n    def delx(self): del self._x\n    x = " ++
    "property(getx, setx, delx, \"I'm the 'x' property.\")\n\nDecorators make defining new " ++
    "properties or modifying existing ones easy:\n\nclass C(object):\n    @property\n    def " ++
    "x(self):\n        \"I am the 'x' property.\"\n        return self._x\n    @x.setter\n   " ++
    " def x(self, value):\n        self._x = value\n    @x.deleter\n    def x(self):\n       " ++
    " del self._x"),
  ("range",
    "range(stop) -> range object\nrange(start, stop[, step]) -> range object\n\nReturn an " ++
    "object that produces a sequence of integers from start (inclusive)\nto stop (exclusive) " ++
    "by step.  range(i, j) produces i, i+1, i+2, ..., j-1.\nstart defaults to 0, and stop is " ++
    "omitted!  range(4) produces 0, 1, 2, 3.\nThese are exactly the valid indices for a list " ++
    "of 4 elements.\nWhen step is given, it specifies the increment (or decrement)."),
  ("reversed",
    "Return a reverse iterator over the values of the given sequence."),
  ("set",
    "set() -> new empty set object\nset(iterable) -> new set object\n\nBuild an unordered " ++
    "collection of unique elements."),
  ("slice",
    "slice(stop)\nslice(start, stop[, step])\n\nCreate a slice object.  This is used for " ++
    "extended slicing (e.g. a[0:10:2])."),
  ("str",
    "str(object='') -> str\nstr(bytes_or_buffer[, encoding[, errors]]) -> str\n\nCreate a new" ++
    " string object from the given object. If encoding or\nerrors is specified, then the " ++
    "object must expose a data buffer\nthat will be decoded using the given encoding and " ++
    "error handler.\nOtherwise, returns the result of object.__str__() (if defined)\nor " ++
    "repr(object).\nencoding defaults to sys.getdefaultencoding().\nerrors defaults to " ++
    "'strict'."),
  ("super",
    "super() -> same as super(__class__, <first argument>)\nsuper(type) -> unbound super " ++
    "object\nsuper(type, obj) -> bound super object; requires isinstance(obj, type)\n" ++
    "super(type, type2) -> bound super object; requires issubclass(type2, type)\nTypical use " ++
    "to call a cooperative superclass method:\nclass C(B):\n    def meth(self, arg):\n       " ++
    " super().meth(arg)\nThis works for class methods too:\nclass C(B):\n    @classmethod\n  " ++
    "  def cmeth(cls, arg):\n        super().cmeth(arg)\n"),
  ("tuple",
    "Built-in immutable sequence.\n\nIf no argument is given, the constructor returns an " ++
    "empty tuple.\nIf iterable is specified the tuple is initialized from iterable's items.\n" ++
    "\nIf the argument is a tuple, the return value is the same object."),
  ("type",
    "type(object) -> the object's type\ntype(name, bases, dict, **kwds) -> a new type"),
  ("zip",
    "zip(*iterables, strict=False) --> Yield tuples until an input is exhausted.\n\n   >>> " ++
    "list(zip('abcdefg', range(3), range(4)))\n   [('a', 0, 0), ('b', 1, 1), ('c', 2, 2)]\n\n" ++
    "The zip object yields n-length tuples, where n is the number of iterables\npassed as " ++
    "positional arguments to zip().  The i-th element in every tuple\ncomes from the i-th " ++
    "iterable argument to zip().  This continues until the\nshortest argument is exhausted.\n" ++
    "\nIf strict is true and one of the arguments is exhausted before the others,\nraise a " ++
    "ValueError."),
  ("function",
    "Create a function object.\n\n  code\n    a code object\n  globals\n    the globals " ++
    "dictionary\n  name\n    a string that overrides the name from the code object\n  argdefs" ++
    "\n    a tuple that specifies the default argument values\n  closure\n    a tuple that " ++
    "supplies the bindings for free variables")]

/-- What the classes of errors say. -/
def errorTexts : List (String × String) := [
  ("ArithmeticError",
    "Base class for arithmetic errors."),
  ("AssertionError",
    "Assertion failed."),
  ("AttributeError",
    "Attribute not found."),
  ("BaseException",
    "Common base class for all exceptions"),
  ("BaseExceptionGroup",
    "A combination of multiple unrelated exceptions."),
  ("BlockingIOError",
    "I/O operation would block."),
  ("BrokenPipeError",
    "Broken pipe."),
  ("BufferError",
    "Buffer error."),
  ("BytesWarning",
    "Base class for warnings about bytes and buffer related problems, mostly\nrelated to " ++
    "conversion from str or comparing to str."),
  ("ChildProcessError",
    "Child process error."),
  ("ConnectionAbortedError",
    "Connection aborted."),
  ("ConnectionError",
    "Connection error."),
  ("ConnectionRefusedError",
    "Connection refused."),
  ("ConnectionResetError",
    "Connection reset."),
  ("DeprecationWarning",
    "Base class for warnings about deprecated features."),
  ("EOFError",
    "Read beyond end of file."),
  ("EncodingWarning",
    "Base class for warnings about encodings."),
  ("Exception",
    "Common base class for all non-exit exceptions."),
  ("FileExistsError",
    "File already exists."),
  ("FileNotFoundError",
    "File not found."),
  ("FloatingPointError",
    "Floating point operation failed."),
  ("FutureWarning",
    "Base class for warnings about constructs that will change semantically\nin the future."),
  ("GeneratorExit",
    "Request that a generator exit."),
  ("ImportError",
    "Import can't find module, or can't find name in module."),
  ("ImportWarning",
    "Base class for warnings about probable mistakes in module imports"),
  ("IndentationError",
    "Improper indentation."),
  ("IndexError",
    "Sequence index out of range."),
  ("InterruptedError",
    "Interrupted by signal."),
  ("IsADirectoryError",
    "Operation doesn't work on directories."),
  ("KeyError",
    "Mapping key not found."),
  ("KeyboardInterrupt",
    "Program interrupted by user."),
  ("LookupError",
    "Base class for lookup errors."),
  ("MemoryError",
    "Out of memory."),
  ("ModuleNotFoundError",
    "Module not found."),
  ("NameError",
    "Name not found globally."),
  ("NotADirectoryError",
    "Operation only works on directories."),
  ("NotImplementedError",
    "Method or function hasn't been implemented yet."),
  ("OSError",
    "Base class for I/O related errors."),
  ("OverflowError",
    "Result too large to be represented."),
  ("PendingDeprecationWarning",
    "Base class for warnings about features which will be deprecated\nin the future."),
  ("PermissionError",
    "Not enough permissions."),
  ("ProcessLookupError",
    "Process not found."),
  ("RecursionError",
    "Recursion limit exceeded."),
  ("ReferenceError",
    "Weak ref proxy used after referent went away."),
  ("ResourceWarning",
    "Base class for warnings about resource usage."),
  ("RuntimeError",
    "Unspecified run-time error."),
  ("RuntimeWarning",
    "Base class for warnings about dubious runtime behavior."),
  ("StopAsyncIteration",
    "Signal the end from iterator.__anext__()."),
  ("StopIteration",
    "Signal the end from iterator.__next__()."),
  ("SyntaxError",
    "Invalid syntax."),
  ("SyntaxWarning",
    "Base class for warnings about dubious syntax."),
  ("SystemExit",
    "Request to exit from the interpreter."),
  ("TabError",
    "Improper mixture of spaces and tabs."),
  ("TimeoutError",
    "Timeout expired."),
  ("TypeError",
    "Inappropriate argument type."),
  ("UnboundLocalError",
    "Local name referenced but not bound to a value."),
  ("UnicodeDecodeError",
    "Unicode decoding error."),
  ("UnicodeEncodeError",
    "Unicode encoding error."),
  ("UnicodeError",
    "Unicode related error."),
  ("UnicodeTranslateError",
    "Unicode translation error."),
  ("UnicodeWarning",
    "Base class for warnings about Unicode related problems, mostly\nrelated to conversion " ++
    "problems."),
  ("UserWarning",
    "Base class for warnings generated by user code."),
  ("ValueError",
    "Inappropriate argument value (of correct type)."),
  ("Warning",
    "Base class for warning categories."),
  ("ZeroDivisionError",
    "Second argument to a division or modulo operation was zero.")]

/-- What functions say of themselves. -/
def functionTexts : List (String × String) := [
  ("__build_class__",
    "__build_class__(func, name, /, *bases, [metaclass], **kwds) -> class\n\nInternal helper " ++
    "function used by the class statement."),
  ("abs",
    "Return the absolute value of the argument."),
  ("aiter",
    "Return an AsyncIterator for an AsyncIterable object."),
  ("all",
    "Return True if bool(x) is True for all values x in the iterable.\n\nIf the iterable is " ++
    "empty, return True."),
  ("anext",
    "async anext(aiterator[, default])\n\nReturn the next item from the async iterator.  If " ++
    "default is given and the async\niterator is exhausted, it is returned instead of raising" ++
    " StopAsyncIteration."),
  ("any",
    "Return True if bool(x) is True for any x in the iterable.\n\nIf the iterable is empty, " ++
    "return False."),
  ("bin",
    "Return the binary representation of an integer.\n\n   >>> bin(2796202)\n   " ++
    "'0b1010101010101010101010'"),
  ("breakpoint",
    "breakpoint(*args, **kws)\n\nCall sys.breakpointhook(*args, **kws).  sys.breakpointhook()" ++
    " must accept\nwhatever arguments are passed.\n\nBy default, this drops you into the pdb " ++
    "debugger."),
  ("callable",
    "Return whether the object is callable (i.e., some kind of function).\n\nNote that " ++
    "classes are callable, as are instances of classes with a\n__call__() method."),
  ("chr",
    "Return a Unicode string of one character with ordinal i; 0 <= i <= 0x10ffff."),
  ("delattr",
    "Deletes the named attribute from the given object.\n\ndelattr(x, 'y') is equivalent to " ++
    "``del x.y``"),
  ("dir",
    "dir([object]) -> list of strings\n\nIf called without an argument, return the names in " ++
    "the current scope.\nElse, return an alphabetized list of names comprising (some of) the " ++
    "attributes\nof the given object, and of attributes reachable from it.\nIf the object " ++
    "supplies a method named __dir__, it will be used; otherwise\nthe default dir() logic is " ++
    "used and returns:\n  for a module object: the module's attributes.\n  for a class " ++
    "object:  its attributes, and recursively the attributes\n    of its bases.\n  for any " ++
    "other object: its attributes, its class's attributes, and\n    recursively the " ++
    "attributes of its class's base classes."),
  ("divmod",
    "Return the tuple (x//y, x%y).  Invariant: div*y + mod == x."),
  ("format",
    "Return value.__format__(format_spec)\n\nformat_spec defaults to the empty string.\nSee " ++
    "the Format Specification Mini-Language section of help('FORMATTING') for\ndetails."),
  ("getattr",
    "getattr(object, name[, default]) -> value\n\nGet a named attribute from an object; " ++
    "getattr(x, 'y') is equivalent to x.y.\nWhen a default argument is given, it is returned " ++
    "when the attribute doesn't\nexist; without it, an exception is raised in that case."),
  ("globals",
    "Return the dictionary containing the current scope's global variables.\n\nNOTE: Updates " ++
    "to this dictionary *will* affect name lookups in the current\nglobal scope and " ++
    "vice-versa."),
  ("hasattr",
    "Return whether the object has an attribute with the given name.\n\nThis is done by " ++
    "calling getattr(obj, name) and catching AttributeError."),
  ("hash",
    "Return the hash value for the given object.\n\nTwo objects that compare equal must also " ++
    "have the same hash value, but the\nreverse is not necessarily true."),
  ("hex",
    "Return the hexadecimal representation of an integer.\n\n   >>> hex(12648430)\n   " ++
    "'0xc0ffee'"),
  ("input",
    "Read a string from standard input.  The trailing newline is stripped.\n\nThe prompt " ++
    "string, if given, is printed to standard output without a\ntrailing newline before " ++
    "reading input.\n\nIf the user hits EOF (*nix: Ctrl-D, Windows: Ctrl-Z+Return), raise " ++
    "EOFError.\nOn *nix systems, readline is used if available."),
  ("isinstance",
    "Return whether an object is an instance of a class or of a subclass thereof.\n\nA tuple," ++
    " as in ``isinstance(x, (A, B, ...))``, may be given as the target to\ncheck against. " ++
    "This is equivalent to ``isinstance(x, A) or isinstance(x, B)\nor ...`` etc."),
  ("issubclass",
    "Return whether 'cls' is derived from another class or is the same class.\n\nA tuple, as " ++
    "in ``issubclass(x, (A, B, ...))``, may be given as the target to\ncheck against. This is" ++
    " equivalent to ``issubclass(x, A) or issubclass(x, B)\nor ...``."),
  ("iter",
    "iter(iterable) -> iterator\niter(callable, sentinel) -> iterator\n\nGet an iterator from" ++
    " an object.  In the first form, the argument must\nsupply its own iterator, or be a " ++
    "sequence.\nIn the second form, the callable is called until it returns the sentinel."),
  ("len",
    "Return the number of items in a container."),
  ("locals",
    "Return a dictionary containing the current scope's local variables.\n\nNOTE: Whether or " ++
    "not updates to this dictionary will affect name lookups in\nthe local scope and " ++
    "vice-versa is *implementation dependent* and not\ncovered by any backwards compatibility" ++
    " guarantees."),
  ("max",
    "max(iterable, *[, default=obj, key=func]) -> value\nmax(arg1, arg2, *args, *[, " ++
    "key=func]) -> value\n\nWith a single iterable argument, return its biggest item. The\n" ++
    "default keyword-only argument specifies an object to return if\nthe provided iterable is" ++
    " empty.\nWith two or more arguments, return the largest argument."),
  ("min",
    "min(iterable, *[, default=obj, key=func]) -> value\nmin(arg1, arg2, *args, *[, " ++
    "key=func]) -> value\n\nWith a single iterable argument, return its smallest item. The\n" ++
    "default keyword-only argument specifies an object to return if\nthe provided iterable is" ++
    " empty.\nWith two or more arguments, return the smallest argument."),
  ("next",
    "next(iterator[, default])\n\nReturn the next item from the iterator. If default is given" ++
    " and the iterator\nis exhausted, it is returned instead of raising StopIteration."),
  ("oct",
    "Return the octal representation of an integer.\n\n   >>> oct(342391)\n   '0o1234567'"),
  ("ord",
    "Return the Unicode code point for a one-character string."),
  ("pow",
    "Equivalent to base**exp with 2 arguments or base**exp % mod with 3 arguments\n\nSome " ++
    "types, such as ints, are able to use a more efficient algorithm when\ninvoked using the " ++
    "three argument form."),
  ("print",
    "Prints the values to a stream, or to sys.stdout by default.\n\n  sep\n    string " ++
    "inserted between values, default a space.\n  end\n    string appended after the last " ++
    "value, default a newline.\n  file\n    a file-like object (stream); defaults to the " ++
    "current sys.stdout.\n  flush\n    whether to forcibly flush the stream."),
  ("repr",
    "Return the canonical string representation of the object.\n\nFor many object types, " ++
    "including most builtins, eval(repr(obj)) == obj."),
  ("round",
    "Round a number to a given precision in decimal digits.\n\nThe return value is an integer" ++
    " if ndigits is omitted or None.  Otherwise\nthe return value has the same type as the " ++
    "number.  ndigits may be negative."),
  ("setattr",
    "Sets the named attribute on the given object to the specified value.\n\nsetattr(x, 'y', " ++
    "v) is equivalent to ``x.y = v``"),
  ("sorted",
    "Return a new list containing all items from the iterable in ascending order.\n\nA custom" ++
    " key function can be supplied to customize the sort order, and the\nreverse flag can be " ++
    "set to request the result in descending order."),
  ("sum",
    "Return the sum of a 'start' value (default: 0) plus an iterable of numbers\n\nWhen the " ++
    "iterable is empty, return the start value.\nThis function is intended specifically for " ++
    "use with numeric values and may\nreject non-numeric types."),
  ("vars",
    "vars([object]) -> dictionary\n\nWithout arguments, equivalent to locals().\nWith an " ++
    "argument, equivalent to object.__dict__.")]

/-- What forms of types say. -/
def formTexts : List (String × String) := [
  ("Optional",
    "Optional[X] is equivalent to Union[X, None].")]

/-- What a predefined name says it is. -/
def documentation? (name : String) : Option String :=
  [classTexts, errorTexts, functionTexts, formTexts].findSome? fun table => table.lookup name

end HttpInterface.Predefined
