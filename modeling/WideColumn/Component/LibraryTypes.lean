import WideColumn.Component.Meaning

/-!
What is known of the types that are there for everybody: the types that they are kinds of, their
methods, the methods that make other types kinds of them, and what comes of making one.
-/
namespace WideColumn.Component

def ofHome (home names : String) : List String := (words names).map fun name => home ++ "." ++ name

/-- What calling an enumeration without a value leads to. -/
def enumerationCall : String :=
  "EnumType.__call__() missing 1 required positional argument: 'value'"

def libraryKinds : List (String × List String) :=
  [("abc.ABC",
    ofHome "contextlib" "AbstractAsyncContextManager AbstractContextManager" ++
    ofHome "os" "PathLike"),
   ("builtins.ArithmeticError",
    ofHome "builtins" "FloatingPointError OverflowError ZeroDivisionError" ++
    ofHome "decimal" "DecimalException"),
   ("builtins.AttributeError", ofHome "dataclasses" "FrozenInstanceError"),
   ("builtins.BaseException",
    ofHome "builtins"
      "BaseExceptionGroup Exception GeneratorExit KeyboardInterrupt SystemExit"),
   ("builtins.BaseExceptionGroup", ofHome "builtins" "ExceptionGroup"),
   ("builtins.ConnectionError",
    ofHome "builtins"
      "BrokenPipeError ConnectionAbortedError ConnectionRefusedError ConnectionResetError"),
   ("builtins.Exception",
    ofHome "builtins"
      "ArithmeticError AssertionError AttributeError BufferError EOFError OSError ExceptionGroup
      ImportError LookupError MemoryError NameError ReferenceError RuntimeError
      StopAsyncIteration StopIteration SyntaxError SystemError TypeError ValueError Warning" ++
    ofHome "_queue" "Empty" ++
    ofHome "queue" "Full" ++
    ofHome "re" "error" ++
    ofHome "struct" "error" ++
    ofHome "copy" "Error" ++
    ofHome "unittest.case" "SkipTest"),
   ("builtins.ImportError", ofHome "builtins" "ModuleNotFoundError"),
   ("builtins.IndentationError", ofHome "builtins" "TabError"),
   ("builtins.LookupError", ofHome "builtins" "IndexError KeyError"),
   ("builtins.NameError", ofHome "builtins" "UnboundLocalError"),
   ("builtins.OSError",
    ofHome "builtins"
      "BlockingIOError ChildProcessError ConnectionError FileExistsError FileNotFoundError
      InterruptedError IsADirectoryError NotADirectoryError PermissionError ProcessLookupError
      TimeoutError" ++
    ofHome "io" "UnsupportedOperation"),
   ("builtins.RuntimeError",
    ofHome "builtins" "NotImplementedError RecursionError" ++
    ofHome "threading" "BrokenBarrierError"),
   ("builtins.SyntaxError",
    ofHome "builtins" "IndentationError" ++
    ofHome "xml.etree.ElementTree" "ParseError"),
   ("builtins.TypeError", ofHome "decimal" "FloatOperation"),
   ("builtins.UnicodeError",
    ofHome "builtins" "UnicodeDecodeError UnicodeEncodeError UnicodeTranslateError"),
   ("builtins.ValueError",
    ofHome "builtins" "UnicodeError" ++
    ofHome "io" "UnsupportedOperation" ++
    ofHome "json.decoder" "JSONDecodeError" ++
    ofHome "calendar" "IllegalMonthError IllegalWeekdayError" ++
    ofHome "statistics" "StatisticsError"),
   ("builtins.Warning",
    ofHome "builtins"
      "BytesWarning DeprecationWarning EncodingWarning FutureWarning ImportWarning
      PendingDeprecationWarning ResourceWarning RuntimeWarning SyntaxWarning UnicodeWarning
      UserWarning"),
   ("builtins.ZeroDivisionError", ofHome "decimal" "DivisionByZero DivisionUndefined"),
   ("builtins.classmethod", ofHome "abc" "abstractclassmethod"),
   ("builtins.dict", ofHome "collections" "Counter OrderedDict defaultdict"),
   ("builtins.int",
    ofHome "builtins" "bool" ++
    ofHome "enum" "IntEnum IntFlag"),
   ("builtins.property", ofHome "abc" "abstractproperty"),
   ("builtins.staticmethod", ofHome "abc" "abstractstaticmethod"),
   ("builtins.str", ofHome "enum" "StrEnum"),
   ("builtins.tuple",
    ofHome "posix" "sched_param times_result uname_result waitid_result" ++
    ofHome "os" "stat_result statvfs_result terminal_size" ++
    ofHome "_thread" "_ExceptHookArgs" ++
    ofHome "time" "struct_time" ++
    ofHome "decimal" "DecimalTuple" ++
    ofHome "statistics" "LinearRegression" ++
    ofHome "urllib.parse"
      "DefragResult DefragResultBytes ParseResult ParseResultBytes SplitResult SplitResultBytes"),
   ("builtins.type",
    ofHome "abc" "ABCMeta" ++
    ofHome "enum" "EnumType" ++
    ofHome "typing" "NamedTupleMeta"),
   ("calendar.Calendar", ofHome "calendar" "HTMLCalendar TextCalendar"),
   ("calendar.HTMLCalendar", ofHome "calendar" "LocaleHTMLCalendar"),
   ("calendar.TextCalendar", ofHome "calendar" "LocaleTextCalendar"),
   ("collections.abc.AsyncIterable", ofHome "collections.abc" "AsyncIterator"),
   ("collections.abc.AsyncIterator", ofHome "collections.abc" "AsyncGenerator"),
   ("collections.abc.Awaitable", ofHome "collections.abc" "Coroutine"),
   ("collections.abc.ByteString", ofHome "builtins" "bytearray bytes"),
   ("collections.abc.Collection", ofHome "collections.abc" "Mapping Sequence Set ValuesView"),
   ("collections.abc.Container", ofHome "collections.abc" "Collection"),
   ("collections.abc.Iterable", ofHome "collections.abc" "Collection Iterator Reversible"),
   ("collections.abc.Iterator", ofHome "collections.abc" "Generator"),
   ("collections.abc.Mapping",
    ofHome "collections.abc" "MutableMapping" ++
    ofHome "builtins" "mappingproxy"),
   ("collections.abc.MappingView", ofHome "collections.abc" "ItemsView KeysView ValuesView"),
   ("collections.abc.MutableMapping",
    ofHome "builtins" "dict" ++
    ofHome "collections" "ChainMap UserDict" ++
    ofHome "weakref" "WeakKeyDictionary WeakValueDictionary"),
   ("collections.abc.MutableSequence",
    ofHome "builtins" "bytearray list" ++
    ofHome "collections" "UserList deque" ++
    ofHome "array" "array"),
   ("collections.abc.MutableSet",
    ofHome "builtins" "set" ++
    ofHome "_weakrefset" "WeakSet"),
   ("collections.abc.Reversible", ofHome "collections.abc" "Sequence"),
   ("collections.abc.Sequence",
    ofHome "builtins" "memoryview range str tuple" ++
    ofHome "collections" "UserString" ++
    ofHome "collections.abc" "ByteString MutableSequence"),
   ("collections.abc.Set",
    ofHome "builtins" "frozenset" ++
    ofHome "collections.abc" "ItemsView KeysView MutableSet"),
   ("collections.abc.Sized", ofHome "collections.abc" "Collection MappingView"),
   ("contextlib.AbstractAsyncContextManager",
    ofHome "contextlib" "AsyncExitStack aclosing nullcontext"),
   ("contextlib.AbstractContextManager",
    ofHome "contextlib"
      "ExitStack chdir closing nullcontext redirect_stderr redirect_stdout suppress"),
   ("datetime.date", ofHome "datetime" "datetime"),
   ("datetime.tzinfo", ofHome "datetime" "timezone"),
   ("decimal.DecimalException",
    ofHome "decimal"
      "Clamped DivisionByZero FloatOperation Inexact InvalidOperation Rounded Subnormal"),
   ("decimal.Inexact", ofHome "decimal" "Overflow Underflow"),
   ("decimal.InvalidOperation",
    ofHome "decimal" "ConversionSyntax DivisionImpossible DivisionUndefined InvalidContext"),
   ("decimal.Rounded", ofHome "decimal" "Overflow Underflow"),
   ("decimal.Subnormal", ofHome "decimal" "Underflow"),
   ("enum.Enum",
    ofHome "enum" "Flag ReprEnum" ++
    ofHome "uuid" "SafeUUID"),
   ("enum.Flag", ofHome "enum" "IntFlag"),
   ("enum.IntFlag", ofHome "re" "RegexFlag"),
   ("enum.ReprEnum", ofHome "enum" "IntEnum IntFlag StrEnum"),
   ("enum.StrEnum", ofHome "enum" "EnumCheck FlagBoundary"),
   ("io.BufferedIOBase",
    ofHome "_io" "BufferedRWPair BufferedRandom BufferedReader BufferedWriter BytesIO"),
   ("io.IOBase", ofHome "io" "BufferedIOBase RawIOBase TextIOBase"),
   ("io.RawIOBase", ofHome "_io" "FileIO"),
   ("io.TextIOBase", ofHome "_io" "StringIO TextIOWrapper"),
   ("logging.Filterer", ofHome "logging" "Handler Logger"),
   ("logging.Handler", ofHome "logging" "NullHandler StreamHandler"),
   ("logging.Logger", ofHome "logging" "RootLogger"),
   ("logging.PercentStyle", ofHome "logging" "StrFormatStyle StringTemplateStyle"),
   ("logging.StreamHandler", ofHome "logging" "FileHandler"),
   ("numbers.Complex",
    ofHome "builtins" "complex" ++
    ofHome "numbers" "Real"),
   ("numbers.Integral", ofHome "builtins" "int"),
   ("numbers.Number",
    ofHome "decimal" "Decimal" ++
    ofHome "numbers" "Complex"),
   ("numbers.Rational",
    ofHome "fractions" "Fraction" ++
    ofHome "numbers" "Integral"),
   ("numbers.Real",
    ofHome "builtins" "float" ++
    ofHome "numbers" "Rational"),
   ("pathlib.Path", ofHome "pathlib" "PosixPath WindowsPath"),
   ("pathlib.PurePath", ofHome "pathlib" "Path PurePosixPath PureWindowsPath"),
   ("pathlib.PurePosixPath", ofHome "pathlib" "PosixPath"),
   ("pathlib.PureWindowsPath", ofHome "pathlib" "WindowsPath"),
   ("queue.Queue", ofHome "queue" "LifoQueue PriorityQueue"),
   ("random.Random", ofHome "random" "SystemRandom"),
   ("threading.Semaphore", ofHome "threading" "BoundedSemaphore"),
   ("threading.Thread", ofHome "threading" "Timer"),
   ("types.DynamicClassAttribute", ofHome "enum" "property"),
   ("typing.Generic", ofHome "typing" "IO Protocol"),
   ("typing.IO", ofHome "typing" "BinaryIO TextIO"),
   ("typing.Protocol",
    ofHome "typing"
      "SupportsAbs SupportsBytes SupportsComplex SupportsFloat SupportsIndex SupportsInt
      SupportsRound"),
   ("unittest.case.TestCase",
    ofHome "unittest.case" "FunctionTestCase" ++
    ofHome "unittest.async_case" "IsolatedAsyncioTestCase"),
   ("unittest.mock.Mock", ofHome "unittest.mock" "MagicMock AsyncMock PropertyMock"),
   ("unittest.result.TestResult", ofHome "unittest.runner" "TextTestResult"),
   ("unittest.suite.BaseTestSuite", ofHome "unittest.suite" "TestSuite"),
   ("urllib.parse._NetlocResultMixinStr", ofHome "urllib.parse" "ParseResult SplitResult"),
   ("weakref.ReferenceType", ofHome "weakref" "KeyedRef WeakMethod")]

/-- The types that have a method, as far as somebody asks for it. -/
def libraryMethods : List (String × List String) :=
  [("__abs__",
    ofHome "datetime" "timedelta" ++
    ofHome "typing" "SupportsAbs" ++
    ofHome "decimal" "Decimal" ++
    ofHome "numbers" "Complex" ++
    ofHome "weakref" "CallableProxyType ProxyType"),
   ("__aenter__", ofHome "contextlib" "AbstractAsyncContextManager"),
   ("__aexit__", ofHome "contextlib" "AbstractAsyncContextManager"),
   ("__aiter__",
    ofHome "collections.abc" "AsyncIterable" ++
    ofHome "builtins" "async_generator"),
   ("__anext__",
    ofHome "collections.abc" "AsyncIterator" ++
    ofHome "builtins" "async_generator"),
   ("__await__",
    ofHome "collections.abc" "Awaitable" ++
    ofHome "builtins" "coroutine"),
   ("__bytes__",
    ofHome "builtins" "bytes" ++
    ofHome "pathlib" "PurePath" ++
    ofHome "typing" "SupportsBytes" ++
    ofHome "weakref" "ProxyType"),
   ("__call__",
    ofHome "builtins"
      "staticmethod type method function method_descriptor method-wrapper wrapper_descriptor
      builtin_function_or_method classmethod_descriptor" ++
    ofHome "collections.abc" "Callable" ++
    ofHome "contextlib" "AsyncContextDecorator ContextDecorator" ++
    ofHome "types" "GenericAlias" ++
    ofHome "enum" "verify" ++
    ofHome "functools" "partial" ++
    ofHome "_json" "Encoder" ++
    ofHome "operator" "attrgetter itemgetter methodcaller" ++
    ofHome "typing" "NewType" ++
    ofHome "unittest.suite" "BaseTestSuite" ++
    ofHome "unittest.case" "TestCase" ++
    ofHome "weakref" "CallableProxyType ReferenceType finalize" ++
    ofHome "unittest.mock" "Mock"),
   ("__complex__",
    ofHome "collections" "UserString" ++
    ofHome "typing" "SupportsComplex" ++
    ofHome "decimal" "Decimal" ++
    ofHome "numbers" "Complex"),
   ("__contains__",
    ofHome "collections.abc" "Container" ++
    ofHome "enum" "EnumType Flag" ++
    ofHome "weakref" "CallableProxyType ProxyType"),
   ("__enter__",
    ofHome "builtins" "memoryview" ++
    ofHome "contextlib" "AbstractContextManager" ++
    ofHome "_thread" "RLock" ++
    ofHome "io" "IOBase" ++
    ofHome "pathlib" "Path" ++
    ofHome "threading" "Condition Semaphore" ++
    ofHome "typing" "IO" ++
    ofHome "calendar" "different_locale" ++
    ofHome "warnings" "catch_warnings"),
   ("__exit__",
    ofHome "builtins" "memoryview" ++
    ofHome "contextlib" "AbstractContextManager" ++
    ofHome "_thread" "RLock" ++
    ofHome "io" "IOBase" ++
    ofHome "pathlib" "Path" ++
    ofHome "threading" "Condition Semaphore" ++
    ofHome "typing" "IO" ++
    ofHome "calendar" "different_locale" ++
    ofHome "warnings" "catch_warnings"),
   ("__float__",
    ofHome "collections" "UserString" ++
    ofHome "typing" "SupportsFloat" ++
    ofHome "decimal" "Decimal" ++
    ofHome "numbers" "Real" ++
    ofHome "weakref" "CallableProxyType ProxyType"),
   ("__fspath__",
    ofHome "posix" "DirEntry" ++
    ofHome "os" "PathLike" ++
    ofHome "pathlib" "PurePath"),
   ("__hash__",
    ofHome "builtins" "complex float frozenset int" ++
    ofHome "decimal" "Decimal" ++
    ofHome "fractions" "Fraction"),
   ("__index__",
    ofHome "typing" "SupportsIndex" ++
    ofHome "numbers" "Integral" ++
    ofHome "weakref" "CallableProxyType ProxyType"),
   ("__int__",
    ofHome "builtins" "float" ++
    ofHome "collections" "UserString" ++
    ofHome "typing" "SupportsInt" ++
    ofHome "decimal" "Decimal" ++
    ofHome "fractions" "Fraction" ++
    ofHome "numbers" "Integral" ++
    ofHome "uuid" "UUID" ++
    ofHome "weakref" "CallableProxyType ProxyType"),
   ("__iter__",
    ofHome "builtins" "enumerate filter map reversed zip generator" ++
    ofHome "collections.abc" "Iterable" ++
    ofHome "types" "GenericAlias" ++
    ofHome "enum" "EnumType Flag" ++
    ofHome "io" "IOBase" ++
    ofHome "itertools"
      "accumulate chain combinations combinations_with_replacement compress count cycle dropwhile
      filterfalse groupby islice pairwise permutations product repeat starmap takewhile
      zip_longest" ++
    ofHome "typing" "TypeVarTuple" ++
    ofHome "unittest.suite" "BaseTestSuite" ++
    ofHome "weakref" "CallableProxyType ProxyType"),
   ("__len__",
    ofHome "collections.abc" "Sized" ++
    ofHome "enum" "EnumType Flag" ++
    ofHome "xml.etree.ElementTree" "Element" ++
    ofHome "weakref" "CallableProxyType ProxyType"),
   ("__next__",
    ofHome "builtins" "enumerate filter map reversed zip generator" ++
    ofHome "collections.abc" "Iterator" ++
    ofHome "io" "IOBase" ++
    ofHome "itertools"
      "accumulate chain combinations combinations_with_replacement compress count cycle dropwhile
      filterfalse groupby islice pairwise permutations product repeat starmap takewhile
      zip_longest" ++
    ofHome "weakref" "CallableProxyType ProxyType"),
   ("__reversed__",
    ofHome "builtins" "dict mappingproxy" ++
    ofHome "collections.abc" "Reversible" ++
    ofHome "enum" "EnumType" ++
    ofHome "weakref" "ProxyType"),
   ("__round__",
    ofHome "typing" "SupportsRound" ++
    ofHome "decimal" "Decimal" ++
    ofHome "numbers" "Real"),
   ("aclose",
    ofHome "collections.abc" "AsyncGenerator" ++
    ofHome "contextlib" "AsyncExitStack" ++
    ofHome "builtins" "async_generator"),
   ("asend",
    ofHome "collections.abc" "AsyncGenerator" ++
    ofHome "builtins" "async_generator"),
   ("athrow",
    ofHome "collections.abc" "AsyncGenerator" ++
    ofHome "builtins" "async_generator"),
   ("close",
    ofHome "collections.abc" "Coroutine Generator" ++
    ofHome "contextlib" "ExitStack" ++
    ofHome "io" "IOBase" ++
    ofHome "logging" "Handler" ++
    ofHome "typing" "IO" ++
    ofHome "xml.etree.ElementTree" "TreeBuilder XMLParser XMLPullParser" ++
    ofHome "builtins" "coroutine generator"),
   ("put",
    ofHome "queue" "Queue" ++
    ofHome "_queue" "SimpleQueue"),
   ("send",
    ofHome "collections.abc" "Coroutine Generator" ++
    ofHome "builtins" "coroutine generator"),
   ("throw",
    ofHome "collections.abc" "Coroutine Generator" ++
    ofHome "builtins" "coroutine generator")]

/-- The types that do not have a method that the types before them have. -/
def libraryGaps : List (String × List String) :=
  [("__complex__", ofHome "builtins" "float int"),
   ("__contains__", ofHome "builtins" "memoryview"),
   ("__hash__",
    ofHome "builtins" "bytearray list slice cell" ++
    ofHome "collections" "UserList deque" ++
    ofHome "collections.abc" "Mapping Set" ++
    ofHome "typing" "ParamSpecArgs ParamSpecKwargs" ++
    ofHome "array" "array" ++
    ofHome "numbers" "Number" ++
    ofHome "types" "SimpleNamespace" ++
    ofHome "unittest.suite" "BaseTestSuite" ++
    ofHome "weakref" "CallableProxyType ProxyType"),
   ("__reversed__",
    ofHome "builtins" "bytearray bytes memoryview str tuple" ++
    ofHome "array" "array")]

/-- The methods that make every type a kind of a type, in any of these ways. -/
def libraryDemands : List (String × List (List String)) :=
  [("abc.ABC", [["__enter__", "__exit__"], ["__aenter__", "__aexit__"], ["__fspath__"]]),
   ("collections.abc.AsyncGenerator", [["__aiter__", "__anext__", "asend", "athrow", "aclose"]]),
   ("collections.abc.AsyncIterable", [["__aiter__"]]),
   ("collections.abc.AsyncIterator", [["__anext__", "__aiter__"]]),
   ("collections.abc.Awaitable", [["__await__"]]),
   ("collections.abc.Callable", [["__call__"]]),
   ("collections.abc.Collection", [["__len__", "__iter__", "__contains__"]]),
   ("collections.abc.Container", [["__contains__"]]),
   ("collections.abc.Coroutine", [["__await__", "send", "throw", "close"]]),
   ("collections.abc.Generator", [["__iter__", "__next__", "send", "throw", "close"]]),
   ("collections.abc.Hashable", [["__hash__"]]),
   ("collections.abc.Iterable", [["__iter__"]]),
   ("collections.abc.Iterator", [["__iter__", "__next__"]]),
   ("collections.abc.Reversible", [["__reversed__", "__iter__"]]),
   ("collections.abc.Sized", [["__len__"]]),
   ("contextlib.AbstractAsyncContextManager", [["__aenter__", "__aexit__"]]),
   ("contextlib.AbstractContextManager", [["__enter__", "__exit__"]]),
   ("os.PathLike", [["__fspath__"]]),
   ("typing.Protocol",
     [["__abs__"], ["__bytes__"], ["__complex__"], ["__float__"], ["__index__"], ["__int__"],
      ["__round__"], ["put", "delete"], ["table", "close"], ["__iter__", "close"]]),
   ("typing.SupportsAbs", [["__abs__"]]),
   ("typing.SupportsBytes", [["__bytes__"]]),
   ("typing.SupportsComplex", [["__complex__"]]),
   ("typing.SupportsFloat", [["__float__"]]),
   ("typing.SupportsIndex", [["__index__"]]),
   ("typing.SupportsInt", [["__int__"]]),
   ("typing.SupportsRound", [["__round__"]])]

def libraryMakings : List (Making × List String) :=
  [(.refused "BaseExceptionGroup.__new__() takes exactly 2 arguments (0 given)",
    ofHome "builtins" "BaseExceptionGroup ExceptionGroup"),
   (.refused "function takes exactly 5 arguments (0 given)",
    ofHome "builtins" "UnicodeDecodeError UnicodeEncodeError"),
   (.refused "function takes exactly 4 arguments (0 given)",
    ofHome "builtins" "UnicodeTranslateError"),
   (.refused "classmethod expected 1 argument, got 0", ofHome "builtins" "classmethod"),
   (.refused "enumerate() missing required argument 'iterable'", ofHome "builtins" "enumerate"),
   (.refused "filter expected 2 arguments, got 0", ofHome "builtins" "filter"),
   (.refused "map() must have at least two arguments.", ofHome "builtins" "map"),
   (.refused "memoryview() missing required argument 'object' (pos 1)",
    ofHome "builtins" "memoryview"),
   (.refused "range expected at least 1 argument, got 0", ofHome "builtins" "range"),
   (.refused "reversed expected 1 argument, got 0", ofHome "builtins" "reversed"),
   (.refused "slice expected at least 1 argument, got 0", ofHome "builtins" "slice"),
   (.refused "staticmethod expected 1 argument, got 0", ofHome "builtins" "staticmethod"),
   (.failed "RuntimeError" "super(): __class__ cell not found", ofHome "builtins" "super"),
   (.refused "type() takes 1 or 3 arguments", ofHome "builtins" "type"),
   (.refused ("ABCMeta.__new__() missing 3 required positional arguments: 'name', 'bases', and " ++
      "'namespace'"),
    ofHome "abc" "ABCMeta"),
   (.lacksArguments "abstractclassmethod" (words "callable"), ofHome "abc" "abstractclassmethod"),
   (.lacksArguments "abstractstaticmethod" (words "callable"),
    ofHome "abc" "abstractstaticmethod"),
   (.lacksArguments "UserString" (words "seq"), ofHome "collections" "UserString"),
   (.isAbstract (words "asend athrow"), ofHome "collections.abc" "AsyncGenerator"),
   (.isAbstract (words "__aiter__"), ofHome "collections.abc" "AsyncIterable"),
   (.isAbstract (words "__anext__"), ofHome "collections.abc" "AsyncIterator"),
   (.isAbstract (words "__await__"), ofHome "collections.abc" "Awaitable"),
   (.isAbstract (words "__getitem__ __len__"), ofHome "collections.abc" "ByteString Sequence"),
   (.isAbstract (words "__call__"), ofHome "collections.abc" "Callable"),
   (.isAbstract (words "__contains__ __iter__ __len__"),
    ofHome "collections.abc" "Collection Set"),
   (.isAbstract (words "__contains__"), ofHome "collections.abc" "Container"),
   (.isAbstract (words "__await__ send throw"), ofHome "collections.abc" "Coroutine"),
   (.isAbstract (words "send throw"), ofHome "collections.abc" "Generator"),
   (.isAbstract (words "__hash__"), ofHome "collections.abc" "Hashable"),
   (.lacksArguments "MappingView" (words "mapping"),
    ofHome "collections.abc" "ItemsView KeysView MappingView ValuesView"),
   (.isAbstract (words "__iter__"), ofHome "collections.abc" "Iterable"),
   (.isAbstract (words "__next__"), ofHome "collections.abc" "Iterator"),
   (.isAbstract (words "__getitem__ __iter__ __len__"), ofHome "collections.abc" "Mapping"),
   (.isAbstract (words "__delitem__ __getitem__ __iter__ __len__ __setitem__"),
    ofHome "collections.abc" "MutableMapping"),
   (.isAbstract (words "__delitem__ __getitem__ __len__ __setitem__ insert"),
    ofHome "collections.abc" "MutableSequence"),
   (.isAbstract (words "__contains__ __iter__ __len__ add discard"),
    ofHome "collections.abc" "MutableSet"),
   (.isAbstract (words "__iter__ __reversed__"), ofHome "collections.abc" "Reversible"),
   (.isAbstract (words "__len__"), ofHome "collections.abc" "Sized"),
   (.isAbstract (words "__aexit__"), ofHome "contextlib" "AbstractAsyncContextManager"),
   (.isAbstract (words "__exit__"), ofHome "contextlib" "AbstractContextManager"),
   (.refused "GenericAlias expected 2 arguments, got 0", ofHome "types" "GenericAlias"),
   (.refused "method expected 2 arguments, got 0", ofHome "builtins" "method"),
   (.lacksArguments "aclosing" (words "thing"), ofHome "contextlib" "aclosing"),
   (.lacksArguments "chdir" (words "path"), ofHome "contextlib" "chdir"),
   (.lacksArguments "closing" (words "thing"), ofHome "contextlib" "closing"),
   (.lacksArguments "_RedirectStream" (words "new_target"),
    ofHome "contextlib" "redirect_stderr redirect_stdout"),
   (.lacksArguments "Field"
      (words "default default_factory init repr hash compare metadata kw_only"),
    ofHome "dataclasses" "Field"),
   (.refused "function() missing required argument 'code' (pos 1)", ofHome "builtins" "function"),
   (.lacksArguments "InitVar" (words "type"), ofHome "dataclasses" "InitVar"),
   (.refused "function missing required argument 'year' (pos 1)",
    ofHome "datetime" "date datetime"),
   (.refused "timezone() missing required argument 'offset' (pos 1)",
    ofHome "datetime" "timezone"),
   (.refused enumerationCall,
    ofHome "enum" "Enum EnumCheck Flag FlagBoundary IntEnum IntFlag ReprEnum StrEnum" ++
    ofHome "re" "RegexFlag" ++
    ofHome "uuid" "SafeUUID"),
   (.refused ("EnumType.__new__() missing 3 required positional arguments: 'cls', 'bases', and " ++
      "'classdict'"),
    ofHome "enum" "EnumType"),
   (.refused "mappingproxy() missing required argument 'mapping' (pos 1)",
    ofHome "builtins" "mappingproxy"),
   (.lacksArguments "member" (words "value"), ofHome "enum" "member"),
   (.lacksArguments "nonmember" (words "value"), ofHome "enum" "nonmember"),
   (.lacksArguments "cached_property" (words "func"), ofHome "functools" "cached_property"),
   (.refused "type 'partial' takes at least one argument", ofHome "functools" "partial"),
   (.lacksArguments "partialmethod" (words "func"), ofHome "functools" "partialmethod"),
   (.lacksArguments "singledispatchmethod" (words "func"),
    ofHome "functools" "singledispatchmethod"),
   (.refused "BufferedRWPair expected at least 2 arguments, got 0", ofHome "_io" "BufferedRWPair"),
   (.refused "BufferedRandom() missing required argument 'raw' (pos 1)",
    ofHome "_io" "BufferedRandom"),
   (.refused "BufferedReader() missing required argument 'raw' (pos 1)",
    ofHome "_io" "BufferedReader"),
   (.refused "BufferedWriter() missing required argument 'raw' (pos 1)",
    ofHome "_io" "BufferedWriter"),
   (.refused "FileIO() missing required argument 'file' (pos 1)", ofHome "_io" "FileIO"),
   (.refused "IncrementalNewlineDecoder() missing required argument 'decoder' (pos 1)",
    ofHome "_io" "IncrementalNewlineDecoder"),
   (.refused "TextIOWrapper() missing required argument 'buffer' (pos 1)",
    ofHome "_io" "TextIOWrapper"),
   (.refused "accumulate() missing required argument 'iterable' (pos 1)",
    ofHome "itertools" "accumulate"),
   (.refused "combinations() missing required argument 'iterable' (pos 1)",
    ofHome "itertools" "combinations"),
   (.refused "combinations_with_replacement() missing required argument 'iterable' (pos 1)",
    ofHome "itertools" "combinations_with_replacement"),
   (.refused "compress() missing required argument 'data' (pos 1)", ofHome "itertools" "compress"),
   (.refused "cycle expected 1 argument, got 0", ofHome "itertools" "cycle"),
   (.refused "dropwhile expected 2 arguments, got 0", ofHome "itertools" "dropwhile"),
   (.refused "filterfalse expected 2 arguments, got 0", ofHome "itertools" "filterfalse"),
   (.refused "groupby() missing required argument 'iterable' (pos 1)",
    ofHome "itertools" "groupby"),
   (.refused "islice expected at least 2 arguments, got 0", ofHome "itertools" "islice"),
   (.refused "pairwise expected 1 argument, got 0", ofHome "itertools" "pairwise"),
   (.refused "permutations() missing required argument 'iterable' (pos 1)",
    ofHome "itertools" "permutations"),
   (.refused "repeat() missing required argument 'object' (pos 1)", ofHome "itertools" "repeat"),
   (.refused "starmap expected 2 arguments, got 0", ofHome "itertools" "starmap"),
   (.refused "takewhile expected 2 arguments, got 0", ofHome "itertools" "takewhile"),
   (.lacksArguments "JSONDecodeError" (words "msg doc pos"),
    ofHome "json.decoder" "JSONDecodeError"),
   (.refused "make_encoder() missing required argument 'markers' (pos 1)",
    ofHome "_json" "Encoder"),
   (.lacksArguments "FileHandler" (words "filename"), ofHome "logging" "FileHandler"),
   (.lacksArguments "LogRecord" (words "name level pathname lineno msg args exc_info"),
    ofHome "logging" "LogRecord"),
   (.lacksArguments "Logger" (words "name"), ofHome "logging" "Logger"),
   (.lacksArguments "LoggerAdapter" (words "logger"), ofHome "logging" "LoggerAdapter"),
   (.lacksArguments "Manager" (words "rootnode"), ofHome "logging" "Manager"),
   (.lacksArguments "PercentStyle" (words "fmt"),
    ofHome "logging" "PercentStyle StrFormatStyle StringTemplateStyle"),
   (.lacksArguments "PlaceHolder" (words "alogger"), ofHome "logging" "PlaceHolder"),
   (.lacksArguments "RootLogger" (words "level"), ofHome "logging" "RootLogger"),
   (.lacksArguments "Template" (words "template"), ofHome "string" "Template"),
   (.refused "cannot create 'posix.DirEntry' instances", ofHome "posix" "DirEntry"),
   (.isAbstract (words "__fspath__"), ofHome "os" "PathLike"),
   (.refused "sched_param() missing required argument 'sched_priority' (pos 1)",
    ofHome "posix" "sched_param"),
   (.refused "structseq() missing required argument 'sequence' (pos 1)",
    ofHome "os" "stat_result statvfs_result terminal_size" ++
    ofHome "posix" "times_result uname_result waitid_result" ++
    ofHome "_thread" "_ExceptHookArgs" ++
    ofHome "time" "struct_time"),
   (.madeAs "PosixPath", ofHome "pathlib" "Path"),
   (.madeAs "PurePosixPath", ofHome "pathlib" "PurePath"),
   (.failed "NotImplementedError" "cannot instantiate 'WindowsPath' on your system",
    ofHome "pathlib" "WindowsPath"),
   (.refused "attrgetter expected 1 argument, got 0", ofHome "operator" "attrgetter"),
   (.refused "cannot create 're.Match' instances", ofHome "re" "Match"),
   (.refused "cannot create 're.Pattern' instances", ofHome "re" "Pattern"),
   (.lacksArguments "Scanner" (words "lexicon"), ofHome "re" "Scanner"),
   (.lacksArguments "error" (words "msg"), ofHome "re" "error"),
   (.refused "Struct() missing required argument 'format' (pos 1)", ofHome "_struct" "Struct"),
   (.lacksArguments "Barrier" (words "parties"), ofHome "threading" "Barrier"),
   (.lacksArguments "Timer" (words "interval function"), ofHome "threading" "Timer"),
   (.refused "Type Annotated cannot be instantiated.", ofHome "typing" "Annotated"),
   (.refused "Any cannot be instantiated", ofHome "typing" "Any"),
   (.lacksArguments "ForwardRef" (words "arg"), ofHome "typing" "ForwardRef"),
   (.refused "cannot create 'method_descriptor' instances", ofHome "builtins" "method_descriptor"),
   (.refused "cannot create 'method-wrapper' instances", ofHome "builtins" "method-wrapper"),
   (.refused ("NamedTupleMeta.__new__() missing 3 required positional arguments: 'typename', " ++
      "'bases', and 'ns'"),
    ofHome "typing" "NamedTupleMeta"),
   (.lacksArguments "NewType" (words "name tp"), ofHome "typing" "NewType"),
   (.lacksArguments "ParamSpec" (words "name"), ofHome "typing" "ParamSpec"),
   (.lacksArguments "ParamSpecArgs" (words "origin"), ofHome "typing" "ParamSpecArgs"),
   (.lacksArguments "ParamSpecKwargs" (words "origin"), ofHome "typing" "ParamSpecKwargs"),
   (.isAbstract (words "__abs__"), ofHome "typing" "SupportsAbs"),
   (.isAbstract (words "__bytes__"), ofHome "typing" "SupportsBytes"),
   (.isAbstract (words "__complex__"), ofHome "typing" "SupportsComplex"),
   (.isAbstract (words "__float__"), ofHome "typing" "SupportsFloat"),
   (.isAbstract (words "__index__"), ofHome "typing" "SupportsIndex"),
   (.isAbstract (words "__int__"), ofHome "typing" "SupportsInt"),
   (.isAbstract (words "__round__"), ofHome "typing" "SupportsRound"),
   (.lacksArguments "TypeVar" (words "name"), ofHome "typing" "TypeVar"),
   (.lacksArguments "TypeVarTuple" (words "name"), ofHome "typing" "TypeVarTuple"),
   (.refused "cannot create 'wrapper_descriptor' instances",
    ofHome "builtins" "wrapper_descriptor"),
   (.lacksArguments "C14NWriterTarget" (words "write"),
    ofHome "xml.etree.ElementTree" "C14NWriterTarget"),
   (.refused "Element() takes at least 1 argument (0 given)",
    ofHome "xml.etree.ElementTree" "Element"),
   (.lacksArguments "QName" (words "text_or_uri"), ofHome "xml.etree.ElementTree" "QName"),
   (.refused "array() takes at least 1 argument (0 given)", ofHome "array" "array"),
   (.lacksArguments "IllegalMonthError" (words "month"), ofHome "calendar" "IllegalMonthError"),
   (.lacksArguments "IllegalWeekdayError" (words "weekday"),
    ofHome "calendar" "IllegalWeekdayError"),
   (.lacksArguments "different_locale" (words "locale"), ofHome "calendar" "different_locale"),
   (.refused ("DecimalTuple.__new__() missing 3 required positional arguments: 'sign', " ++
      "'digits', and 'exponent'"),
    ofHome "decimal" "DecimalTuple"),
   (.isAbstract
      (words "__abs__ __add__ __complex__ __eq__ __mul__ __neg__ __pos__ __pow__ __radd__ __rmul__
        __rpow__ __rtruediv__ __truediv__ conjugate imag real"),
    ofHome "numbers" "Complex"),
   (.isAbstract
      (words "__abs__ __add__ __and__ __ceil__ __eq__ __floor__ __floordiv__ __int__ __invert__
        __le__ __lshift__ __lt__ __mod__ __mul__ __neg__ __or__ __pos__ __pow__ __radd__
        __rand__ __rfloordiv__ __rlshift__ __rmod__ __rmul__ __ror__ __round__ __rpow__
        __rrshift__ __rshift__ __rtruediv__ __rxor__ __truediv__ __trunc__ __xor__"),
    ofHome "numbers" "Integral"),
   (.isAbstract
      (words "__abs__ __add__ __ceil__ __eq__ __floor__ __floordiv__ __le__ __lt__ __mod__ __mul__
        __neg__ __pos__ __pow__ __radd__ __rfloordiv__ __rmod__ __rmul__ __round__ __rpow__
        __rtruediv__ __truediv__ __trunc__ denominator numerator"),
    ofHome "numbers" "Rational"),
   (.isAbstract
      (words "__abs__ __add__ __ceil__ __eq__ __float__ __floor__ __floordiv__ __le__ __lt__
        __mod__ __mul__ __neg__ __pos__ __pow__ __radd__ __rfloordiv__ __rmod__ __rmul__
        __round__ __rpow__ __rtruediv__ __truediv__ __trunc__"),
    ofHome "numbers" "Real"),
   (.refused "itemgetter expected 1 argument, got 0", ofHome "operator" "itemgetter"),
   (.refused "methodcaller needs at least one argument, the method name",
    ofHome "operator" "methodcaller"),
   (.refused ("LinearRegression.__new__() missing 2 required positional arguments: 'slope' and " ++
      "'intercept'"),
    ofHome "statistics" "LinearRegression"),
   (.refused "cannot create 'async_generator' instances", ofHome "builtins" "async_generator"),
   (.refused "cannot create 'builtin_function_or_method' instances",
    ofHome "builtins" "builtin_function_or_method"),
   (.refused "cannot create 'classmethod_descriptor' instances",
    ofHome "builtins" "classmethod_descriptor"),
   (.refused "code expected at least 16 arguments, got 0", ofHome "builtins" "code"),
   (.refused "cannot create 'coroutine' instances", ofHome "builtins" "coroutine"),
   (.refused "cannot create 'frame' instances", ofHome "builtins" "frame"),
   (.refused "cannot create 'generator' instances", ofHome "builtins" "generator"),
   (.refused "cannot create 'getset_descriptor' instances", ofHome "builtins" "getset_descriptor"),
   (.refused "cannot create 'member_descriptor' instances", ofHome "builtins" "member_descriptor"),
   (.refused "module() missing required argument 'name' (pos 1)", ofHome "builtins" "module"),
   (.refused "TracebackType() missing required argument 'tb_next' (pos 1)",
    ofHome "builtins" "traceback"),
   (.refused "cannot create 'types.UnionType' instances", ofHome "types" "UnionType"),
   (.lacksArguments "FunctionTestCase" (words "testFunc"),
    ofHome "unittest.case" "FunctionTestCase"),
   (.lacksArguments "TextTestResult" (words "stream descriptions verbosity"),
    ofHome "unittest.runner" "TextTestResult"),
   (.refused ("DefragResult.__new__() missing 2 required positional arguments: 'url' and " ++
      "'fragment'"),
    ofHome "urllib.parse" "DefragResult DefragResultBytes"),
   (.refused ("ParseResult.__new__() missing 6 required positional arguments: 'scheme', " ++
      "'netloc', 'path', 'params', 'query', and 'fragment'"),
    ofHome "urllib.parse" "ParseResult ParseResultBytes"),
   (.refused ("SplitResult.__new__() missing 5 required positional arguments: 'scheme', " ++
      "'netloc', 'path', 'query', and 'fragment'"),
    ofHome "urllib.parse" "SplitResult SplitResultBytes"),
   (.refused "one of the hex, bytes, bytes_le, fields, or int arguments must be given",
    ofHome "uuid" "UUID"),
   (.lacksArguments "WarningMessage" (words "message category filename lineno"),
    ofHome "warnings" "WarningMessage"),
   (.refused "cannot create 'weakref.CallableProxyType' instances",
    ofHome "weakref" "CallableProxyType"),
   (.refused ("KeyedRef.__new__() missing 3 required positional arguments: 'ob', 'callback', " ++
      "and 'key'"),
    ofHome "weakref" "KeyedRef"),
   (.refused "cannot create 'weakref.ProxyType' instances", ofHome "weakref" "ProxyType"),
   (.refused "__new__ expected at least 1 argument, got 0", ofHome "weakref" "ReferenceType"),
   (.refused "WeakMethod.__new__() missing 1 required positional argument: 'meth'",
    ofHome "weakref" "WeakMethod"),
   (.lacksArguments "finalize" (words "obj func"), ofHome "weakref" "finalize")]

def neighbourKinds : List (String × List String) :=
  [("abc.ABC",
    ofHome "prometheus_client.metrics" "Counter Enum Gauge Histogram Info Summary" ++
    ofHome "prometheus_client.registry" "CollectorRegistry")]

def neighbourMethods : List (String × List String) :=
  [("__call__", ofHome "flask.app" "Flask" ++ ofHome "flask.wrappers" "Response"),
   ("__enter__", ofHome "flask.wrappers" "Request Response"),
   ("__exit__", ofHome "flask.wrappers" "Request Response"),
   ("close", ofHome "flask.wrappers" "Request Response")]

def neighbourMakings : List (Making × List String) :=
  let metric := fun maker => Making.lacksArguments maker (words "name documentation")
  [(.lacksArguments "Flask" ["import_name"], ofHome "flask.app" "Flask"),
   (.lacksArguments "Request" ["environ"], ofHome "flask.wrappers" "Request"),
   (metric "MetricWrapperBase", ofHome "prometheus_client.metrics" "Counter Info Summary"),
   (metric "Enum", ofHome "prometheus_client.metrics" "Enum"),
   (metric "Gauge", ofHome "prometheus_client.metrics" "Gauge"),
   (metric "Histogram", ofHome "prometheus_client.metrics" "Histogram")]

def keysOf {α : Type} (path : String) (table : List (α × List String)) : List α :=
  (table.filter (·.2.contains path)).map (·.1)

def libraryEntry (path : String) : TypeEntry where
  path := path
  bases := keysOf path (libraryKinds ++ neighbourKinds)
  methods := keysOf path (libraryMethods ++ neighbourMethods)
  gaps := keysOf path libraryGaps
  demands := (libraryDemands.lookup path).getD []
  making := (keysOf path (libraryMakings ++ neighbourMakings)).head?.getD .made

end WideColumn.Component
