import HttpInterface.Constant

/-!
# `HttpInterface.Predefined.ModuleTable`: what modules hold

Modules by their names, with the names of the functions and classes that they hold, sort by
sort, and with their constants. What a module holds besides is left out.
-/

set_option autoImplicit false

namespace HttpInterface.Predefined

/-- The names of what a module holds, sort by sort, with blanks between them. -/
structure ModuleMembers where
  /-- Functions that are written out. -/
  written : String := ""
  builtIn : String := ""
  /-- Methods of a value that the module keeps. -/
  methods : String := ""
  /-- Classes, by the packages that they are from. -/
  classes : List (String × String) := []
  /-- Classes under names that are not their own: the name, the package, the own name. -/
  aliases : List (String × String × String) := []
  constants : List (String × Constant) := []
  /-- Modules within the module. -/
  inner : String := ""

/-- The modules with what they hold. -/
def moduleTable : List (String × ModuleMembers) :=
  [("abc",
    { written := "abstractmethod update_abstractmethods"
      builtIn := "get_cache_token"
      classes :=
        [("abc", "ABC ABCMeta abstractclassmethod abstractproperty abstractstaticmethod")] }),
   ("collections",
    { written := "namedtuple"
      classes :=
        [("collections",
          "ChainMap Counter OrderedDict UserDict UserList UserString defaultdict deque")]
      inner := "abc" }),
   ("collections.abc",
    { classes :=
        [("collections.abc",
          "AsyncGenerator AsyncIterable AsyncIterator Awaitable ByteString Callable " ++
            "Collection Container Coroutine Generator Hashable ItemsView Iterable Iterator " ++
            "KeysView Mapping MappingView MutableMapping MutableSequence MutableSet " ++
            "Reversible Sequence Set Sized ValuesView")] }),
   ("contextlib",
    { written := "asynccontextmanager contextmanager"
      classes :=
        [("contextlib",
          "AbstractAsyncContextManager AbstractContextManager AsyncExitStack " ++
            "ContextDecorator ExitStack aclosing chdir closing nullcontext redirect_stderr " ++
            "redirect_stdout suppress")] }),
   ("copy",
    { written := "copy deepcopy"
      classes := [("copy", "Error")] }),
   ("dataclasses",
    { written := "asdict astuple dataclass field fields is_dataclass make_dataclass replace"
      classes := [("dataclasses", "Field FrozenInstanceError InitVar")] }),
   ("datetime",
    { classes := [("datetime", "date datetime time timedelta timezone tzinfo")]
      constants :=
        [("MAXYEAR", .int 9999), ("MINYEAR", .int 1)] }),
   ("decimal",
    { builtIn := "getcontext localcontext setcontext"
      classes :=
        [("decimal",
          "Clamped Context ConversionSyntax Decimal DecimalException DecimalTuple " ++
            "DivisionByZero DivisionImpossible DivisionUndefined FloatOperation Inexact " ++
            "InvalidContext InvalidOperation Overflow Rounded Subnormal Underflow")]
      constants :=
        [("HAVE_CONTEXTVAR", .bool true), ("HAVE_THREADS", .bool true),
         ("MAX_EMAX", .int 999999999999999999), ("MAX_PREC", .int 999999999999999999),
         ("MIN_EMIN", .int (-999999999999999999)), ("MIN_ETINY", .int (-1999999999999999997)),
         ("ROUND_05UP", .text "ROUND_05UP"), ("ROUND_CEILING", .text "ROUND_CEILING"),
         ("ROUND_DOWN", .text "ROUND_DOWN"), ("ROUND_FLOOR", .text "ROUND_FLOOR"),
         ("ROUND_HALF_DOWN", .text "ROUND_HALF_DOWN"),
         ("ROUND_HALF_EVEN", .text "ROUND_HALF_EVEN"), ("ROUND_HALF_UP", .text "ROUND_HALF_UP"),
         ("ROUND_UP", .text "ROUND_UP")] }),
   ("enum",
    { written := "global_enum global_enum_repr global_flag_repr global_str " ++
        "pickle_by_enum_name pickle_by_global_name unique"
      classes :=
        [("enum",
          "Enum EnumCheck EnumType Flag FlagBoundary IntEnum IntFlag ReprEnum StrEnum auto " ++
            "member nonmember property verify")]
      aliases :=
        [("EnumMeta", "enum", "EnumType")] }),
   ("fractions",
    { classes := [("fractions", "Fraction")] }),
   ("functools",
    { written := "cache lru_cache namedtuple recursive_repr singledispatch total_ordering " ++
        "update_wrapper wraps"
      builtIn := "cmp_to_key get_cache_token reduce"
      classes := [("functools", "cached_property partial partialmethod singledispatchmethod")] }),
   ("http",
    { classes := [("http", "HTTPMethod HTTPStatus")] }),
   ("inspect",
    { written := "cleandoc currentframe get_annotations getattr_static getcallargs getdoc " ++
        "getfile getfullargspec getmembers getmodule getmro getsource isabstract isasyncgen " ++
        "isawaitable isbuiltin isclass iscode iscoroutine iscoroutinefunction isframe " ++
        "isfunction isgenerator isgeneratorfunction ismethod ismodule isroutine signature " ++
        "stack unwrap"
      classes := [("inspect", "BoundArguments FullArgSpec Parameter Signature")] }),
   ("io",
    { builtIn := "open open_code text_encoding"
      classes :=
        [("io", "BufferedIOBase IOBase RawIOBase TextIOBase UnsupportedOperation"),
         ("_io",
          "BufferedRWPair BufferedRandom BufferedReader BufferedWriter BytesIO FileIO " ++
            "IncrementalNewlineDecoder StringIO TextIOWrapper")]
      constants :=
        [("DEFAULT_BUFFER_SIZE", .int 8192), ("SEEK_CUR", .int 1), ("SEEK_END", .int 2),
         ("SEEK_SET", .int 0)] }),
   ("itertools",
    { builtIn := "tee"
      classes :=
        [("itertools",
          "accumulate chain combinations combinations_with_replacement compress count " ++
            "cycle dropwhile filterfalse groupby islice pairwise permutations product repeat " ++
            "starmap takewhile zip_longest")] }),
   ("json",
    { written := "dump dumps load loads"
      classes :=
        [("json.decoder", "JSONDecodeError JSONDecoder"),
         ("json.encoder",
          "JSONEncoder")] }),
   ("logging",
    { written := "addLevelName basicConfig captureWarnings critical debug disable error " ++
        "exception fatal getLevelName getLevelNamesMapping getLogRecordFactory getLogger " ++
        "getLoggerClass info log makeLogRecord setLogRecordFactory setLoggerClass shutdown " ++
        "warn warning"
      classes :=
        [("logging",
          "BufferingFormatter FileHandler Filter Formatter Handler LogRecord Logger " ++
            "LoggerAdapter NullHandler StreamHandler")]
      constants :=
        [("BASIC_FORMAT", .text "%(levelname)s:%(name)s:%(message)s"), ("CRITICAL", .int 50),
         ("DEBUG", .int 10), ("ERROR", .int 40), ("FATAL", .int 50), ("INFO", .int 20),
         ("NOTSET", .int 0), ("WARN", .int 30), ("WARNING", .int 30),
         ("raiseExceptions", .bool true)] }),
   ("math",
    { builtIn := "acos acosh asin asinh atan atan2 atanh cbrt ceil comb copysign cos cosh " ++
        "degrees dist erf erfc exp exp2 expm1 fabs factorial floor fmod frexp fsum gamma gcd " ++
        "hypot isclose isfinite isinf isnan isqrt lcm ldexp lgamma log log10 log1p log2 modf " ++
        "nextafter perm pow prod radians remainder sin sinh sqrt tan tanh trunc ulp"
      constants :=
        [("e", .float "2.718281828459045"), ("pi", .float "3.141592653589793"),
         ("tau", .float "6.283185307179586")] }),
   ("numbers",
    { classes := [("numbers", "Complex Integral Number Rational Real")] }),
   ("operator",
    { builtIn := "abs add and_ call concat contains countOf delitem eq floordiv ge getitem " ++
        "gt iadd iand iconcat ifloordiv ilshift imatmul imod imul index indexOf inv invert " ++
        "ior ipow irshift is_ is_not isub itruediv ixor le length_hint lshift lt matmul mod " ++
        "mul ne neg not_ or_ pos pow rshift setitem sub truediv truth xor"
      classes := [("operator", "attrgetter itemgetter methodcaller")] }),
   ("os",
    { written := "execl execle execlp execlpe execvp execvpe fdopen fsdecode fsencode fwalk " ++
        "get_exec_path getenv getenvb makedirs popen removedirs renames spawnl spawnle " ++
        "spawnlp spawnlpe spawnv spawnve spawnvp spawnvpe walk"
      builtIn := "WCOREDUMP WEXITSTATUS WIFCONTINUED WIFEXITED WIFSIGNALED WIFSTOPPED " ++
        "WSTOPSIG WTERMSIG _exit abort access chdir chmod chown chroot close closerange " ++
        "confstr cpu_count ctermid device_encoding dup dup2 eventfd eventfd_read " ++
        "eventfd_write execv execve fchdir fchmod fchown fdatasync fork forkpty fpathconf " ++
        "fspath fstat fstatvfs fsync ftruncate get_blocking get_inheritable " ++
        "get_terminal_size getcwd getcwdb getegid geteuid getgid getgrouplist getgroups " ++
        "getloadavg getlogin getpgid getpgrp getpid getppid getpriority getresgid getresuid " ++
        "getsid getuid getxattr initgroups isatty kill killpg lchown link listdir listxattr " ++
        "lockf login_tty lseek lstat major makedev minor mkdir mkfifo mknod nice open " ++
        "openpty pathconf pipe pipe2 posix_fadvise posix_fallocate posix_spawn posix_spawnp " ++
        "pread preadv putenv pwrite pwritev read readlink readv register_at_fork remove " ++
        "removexattr rename replace rmdir scandir sched_get_priority_max " ++
        "sched_get_priority_min sched_getaffinity sched_getparam sched_getscheduler " ++
        "sched_rr_get_interval sched_setaffinity sched_setparam sched_setscheduler " ++
        "sched_yield sendfile set_blocking set_inheritable setegid seteuid setgid setgroups " ++
        "setpgid setpgrp setpriority setregid setresgid setresuid setreuid setsid setuid " ++
        "setxattr splice stat statvfs strerror symlink sync sysconf system tcgetpgrp " ++
        "tcsetpgrp times truncate ttyname umask uname unlink unsetenv urandom utime wait " ++
        "wait3 wait4 waitid waitpid waitstatus_to_exitcode write writev"
      classes :=
        [("posix", "DirEntry sched_param times_result uname_result waitid_result"),
         ("os",
          "PathLike stat_result statvfs_result terminal_size")]
      aliases :=
        [("error", "", "OSError")]
      constants :=
        [("F_OK", .int 0), ("R_OK", .int 4), ("W_OK", .int 2), ("X_OK", .int 1),
         ("SEEK_SET", .int 0), ("SEEK_CUR", .int 1), ("SEEK_END", .int 2), ("altsep", .null),
         ("curdir", .text "."), ("devnull", .text "/dev/null"), ("extsep", .text "."),
         ("linesep", .text "\n"), ("name", .text "posix"), ("pardir", .text ".."),
         ("pathsep", .text ":"), ("sep", .text "/")]
      inner := "path" }),
   ("posixpath",
    { written := "abspath basename commonpath commonprefix dirname exists expanduser " ++
        "expandvars getatime getctime getmtime getsize isabs isdir isfile islink ismount " ++
        "join lexists normcase normpath realpath relpath samefile sameopenfile samestat " ++
        "split splitdrive splitext"
      constants :=
        [("altsep", .null), ("curdir", .text "."), ("devnull", .text "/dev/null"),
         ("extsep", .text "."), ("pardir", .text ".."), ("pathsep", .text ":"),
         ("sep", .text "/"), ("supports_unicode_filenames", .bool false)] }),
   ("pathlib",
    { classes :=
        [("pathlib", "Path PosixPath PurePath PurePosixPath PureWindowsPath WindowsPath")] }),
   ("random",
    { builtIn := "getrandbits random"
      methods := "betavariate choice choices expovariate gammavariate gauss getstate " ++
        "lognormvariate normalvariate paretovariate randbytes randint randrange sample seed " ++
        "setstate shuffle triangular uniform vonmisesvariate weibullvariate"
      classes := [("random", "Random SystemRandom")] }),
   ("re",
    { written := "compile escape findall finditer fullmatch match purge search split sub " ++
        "subn template"
      classes := [("re", "Match Pattern RegexFlag Scanner error")] }),
   ("string",
    { written := "capwords"
      classes := [("string", "Formatter Template")]
      constants :=
        [("ascii_letters", .text "abcdefghijklmnopqrstuvwxyzABCDEFGHIJKLMNOPQRSTUVWXYZ"),
         ("ascii_lowercase", .text "abcdefghijklmnopqrstuvwxyz"),
         ("ascii_uppercase", .text "ABCDEFGHIJKLMNOPQRSTUVWXYZ"), ("digits", .text "0123456789"),
         ("hexdigits", .text "0123456789abcdefABCDEF"), ("octdigits", .text "01234567"),
         ("punctuation", .text "!\"#$%&\x27()*+,-./:;<=>?@[\\]^_\x60\x7b|\x7d~"),
         ("whitespace", .text " \t\n\x0d\x0b\x0c")] }),
   ("sys",
    { builtIn := "addaudithook audit breakpointhook call_tracing displayhook exc_info " ++
        "excepthook exception exit get_asyncgen_hooks get_coroutine_origin_tracking_depth " ++
        "get_int_max_str_digits getallocatedblocks getdefaultencoding getdlopenflags " ++
        "getfilesystemencodeerrors getfilesystemencoding getprofile getrecursionlimit " ++
        "getrefcount getsizeof getswitchinterval gettrace intern is_finalizing " ++
        "set_asyncgen_hooks set_coroutine_origin_tracking_depth set_int_max_str_digits " ++
        "setdlopenflags setprofile setrecursionlimit setswitchinterval settrace " ++
        "unraisablehook"
      constants :=
        [("abiflags", .text ""), ("byteorder", .text "little"),
         ("float_repr_style", .text "short"), ("maxsize", .int 9223372036854775807),
         ("maxunicode", .int 1114111), ("platform", .text "linux")] }),
   ("time",
    { builtIn := "asctime clock_getres clock_gettime clock_gettime_ns clock_settime " ++
        "clock_settime_ns ctime get_clock_info gmtime localtime mktime monotonic " ++
        "monotonic_ns perf_counter perf_counter_ns process_time process_time_ns " ++
        "pthread_getcpuclockid sleep strftime strptime thread_time thread_time_ns time " ++
        "time_ns tzset"
      classes := [("time", "struct_time")]
      constants :=
        [("CLOCK_BOOTTIME", .int 7), ("CLOCK_MONOTONIC", .int 1),
         ("CLOCK_MONOTONIC_RAW", .int 4), ("CLOCK_PROCESS_CPUTIME_ID", .int 2),
         ("CLOCK_REALTIME", .int 0), ("CLOCK_THREAD_CPUTIME_ID", .int 3), ("altzone", .int 0),
         ("daylight", .int 0), ("timezone", .int 0)] }),
   ("types",
    { written := "coroutine new_class prepare_class resolve_bases"
      classes := [("types", "DynamicClassAttribute GenericAlias SimpleNamespace UnionType")]
      aliases :=
        [("NoneType", "", "NoneType"),
         ("NotImplementedType", "", "NotImplementedType"),
         ("AsyncGeneratorType", "", "async_generator"),
         ("BuiltinFunctionType", "", "builtin_function_or_method"),
         ("BuiltinMethodType", "", "builtin_function_or_method"),
         ("CellType", "", "cell"),
         ("ClassMethodDescriptorType", "", "classmethod_descriptor"),
         ("CodeType", "", "code"),
         ("CoroutineType", "", "coroutine"),
         ("EllipsisType", "", "ellipsis"),
         ("FrameType", "", "frame"),
         ("FunctionType", "", "function"),
         ("GeneratorType", "", "generator"),
         ("GetSetDescriptorType", "", "getset_descriptor"),
         ("LambdaType", "", "function"),
         ("MappingProxyType", "", "mappingproxy"),
         ("MemberDescriptorType", "", "member_descriptor"),
         ("MethodDescriptorType", "", "method_descriptor"),
         ("MethodType", "", "method"),
         ("MethodWrapperType", "", "method-wrapper"),
         ("ModuleType", "", "module"),
         ("TracebackType", "", "traceback"),
         ("WrapperDescriptorType", "", "wrapper_descriptor")] }),
   ("urllib",
    { inner := "parse" }),
   ("urllib.parse",
    { written := "parse_qs parse_qsl quote quote_from_bytes quote_plus unquote unquote_plus " ++
        "unquote_to_bytes urldefrag urlencode urljoin urlparse urlunparse urlunsplit"
      classes :=
        [("urllib.parse",
          "DefragResult DefragResultBytes ParseResult ParseResultBytes SplitResult " ++
            "SplitResultBytes")] }),
   ("uuid",
    { written := "getnode uuid1 uuid3 uuid4 uuid5"
      classes := [("uuid", "SafeUUID UUID")]
      constants :=
        [("RESERVED_FUTURE", .text "reserved for future definition"),
         ("RESERVED_MICROSOFT", .text "reserved for Microsoft compatibility"),
         ("RESERVED_NCS", .text "reserved for NCS compatibility"),
         ("RFC_4122", .text "specified in RFC 4122")] }),
   ("warnings",
    { written := "filterwarnings formatwarning resetwarnings showwarning simplefilter"
      builtIn := "warn warn_explicit"
      classes := [("warnings", "catch_warnings")] })]

end HttpInterface.Predefined
