import WideColumn.Component.Meaning

/-!
More modules that are there for everybody, which the modules of the service do not use themselves.
-/
namespace WideColumn.Component

def furtherModules : List Module := [
  { name := "array"
    members :=
      types "array" "array" ++
      values "str" "typecodes" ++
      [("ArrayType", .type "array.array")] },
  { name := "base64"
    members :=
      named "a85decode a85encode b16decode b16encode b32decode b32encode b32hexdecode
        b32hexencode b64decode b64encode b85decode b85encode binascii decode decodebytes encode
        encodebytes main re standard_b64decode standard_b64encode struct test urlsafe_b64decode
        urlsafe_b64encode" ++
      values "int" "MAXBINSIZE MAXLINESIZE" ++
      values "tuple" "bytes_types" },
  { name := "bisect"
    members :=
      named "bisect_left bisect_right insort_left insort_right" ++
      [("bisect", .named "bisect_right"), ("insort", .named "insort_right")] },
  { name := "calendar"
    members :=
      types "calendar" "Calendar HTMLCalendar IllegalMonthError IllegalWeekdayError
        LocaleHTMLCalendar LocaleTextCalendar TextCalendar different_locale" ++
      types "itertools" "repeat" ++
      named "datetime format formatstring isleap leapdays main monthrange prmonth prweek
        setfirstweekday sys timegm weekday" ++
      values "int" "EPOCH FRIDAY February January MONDAY SATURDAY SUNDAY THURSDAY TUESDAY
        WEDNESDAY" ++
      values "TextCalendar" "c" ++
      values "_localized_day" "day_abbr day_name" ++
      values "list" "mdays" ++
      values "_localized_month" "month_abbr month_name" ++
      [("calendar", .named "formatyear"), ("error", .type "builtins.ValueError"),
        ("firstweekday", .named "getfirstweekday"), ("month", .named "formatmonth"),
        ("monthcalendar", .named "monthdayscalendar"), ("prcal", .named "pryear"),
        ("week", .named "formatweek"), ("weekheader", .named "formatweekheader")] },
  { name := "copy"
    members :=
      types "copy" "Error" ++
      named "copy deepcopy" ++
      values "dict" "dispatch_table" ++
      [("error", .type "copy.Error")] },
  { name := "decimal"
    members :=
      types "decimal" "Clamped Context ConversionSyntax Decimal DecimalException
        DecimalTuple DivisionByZero DivisionImpossible DivisionUndefined FloatOperation Inexact
        InvalidContext InvalidOperation Overflow Rounded Subnormal Underflow" ++
      named "getcontext localcontext setcontext" ++
      values "decimal.Context" "BasicContext DefaultContext ExtendedContext" ++
      values "bool" "HAVE_CONTEXTVAR HAVE_THREADS" ++
      values "int" "MAX_EMAX MAX_PREC MIN_EMIN MIN_ETINY" ++
      values "str" "ROUND_05UP ROUND_CEILING ROUND_DOWN ROUND_FLOOR ROUND_HALF_DOWN
        ROUND_HALF_EVEN ROUND_HALF_UP ROUND_UP" },
  { name := "fractions"
    members :=
      types "fractions" "Fraction" ++
      types "decimal" "Decimal" ++
      named "math numbers operator re sys" },
  { name := "hashlib"
    members :=
      types "_blake2" "blake2b blake2s" ++
      named "file_digest pbkdf2_hmac scrypt" ++
      values "set" "algorithms_available algorithms_guaranteed" ++
      [("md5", .named "openssl_md5"), ("new", .named "__hash_new"),
        ("sha1", .named "openssl_sha1"), ("sha224", .named "openssl_sha224"),
        ("sha256", .named "openssl_sha256"), ("sha384", .named "openssl_sha384"),
        ("sha3_224", .named "openssl_sha3_224"), ("sha3_256", .named "openssl_sha3_256"),
        ("sha3_384", .named "openssl_sha3_384"), ("sha3_512", .named "openssl_sha3_512"),
        ("sha512", .named "openssl_sha512"), ("shake_128", .named "openssl_shake_128"),
        ("shake_256", .named "openssl_shake_256")] },
  { name := "heapq"
    members :=
      named "heapify heappop heappush heappushpop heapreplace merge nlargest nsmallest" },
  { name := "numbers"
    members :=
      types "numbers" "Complex Integral Number Rational Real" ++
      types "abc" "ABCMeta" ++
      named "abstractmethod" },
  { name := "operator"
    members :=
      types "operator" "attrgetter itemgetter methodcaller" ++
      named "abs add and_ call concat contains countOf delitem eq floordiv ge getitem gt iadd
        iand iconcat ifloordiv ilshift imatmul imod imul index indexOf inv invert ior ipow
        irshift is_ is_not isub itruediv ixor le length_hint lshift lt matmul mod mul ne neg not_
        or_ pos pow rshift setitem sub truediv truth xor" },
  { name := "random"
    members :=
      types "random" "Random SystemRandom" ++
      named "betavariate choice choices expovariate gammavariate gauss getrandbits getstate
        lognormvariate normalvariate paretovariate randbytes randint random randrange sample seed
        setstate shuffle triangular uniform vonmisesvariate weibullvariate" ++
      values "int" "BPF" ++
      values "float" "LOG4 NV_MAGICCONST RECIP_BPF SG_MAGICCONST TWOPI" },
  { name := "secrets"
    members :=
      types "random" "SystemRandom" ++
      named "base64 binascii choice compare_digest randbelow token_bytes token_hex token_urlsafe" ++
      values "int" "DEFAULT_ENTROPY" ++
      [("randbits", .named "getrandbits")] },
  { name := "statistics"
    members :=
      types "statistics" "LinearRegression NormalDist StatisticsError" ++
      types "collections" "Counter defaultdict" ++
      types "decimal" "Decimal" ++
      types "fractions" "Fraction" ++
      types "itertools" "groupby repeat" ++
      named "bisect_left bisect_right correlation covariance erf exp fabs fmean fsum
        geometric_mean harmonic_mean hypot linear_regression log math mean median median_grouped
        median_high median_low mode mul multimode namedtuple numbers pstdev pvariance quantiles
        random reduce sqrt stdev sys variance" ++
      values "float" "tau" },
  { name := "textwrap"
    members :=
      types "textwrap" "TextWrapper" ++
      named "dedent fill indent re shorten wrap" },
  { name := "types"
    members :=
      types "types" "DynamicClassAttribute GenericAlias SimpleNamespace UnionType" ++
      types "builtins" "NoneType NotImplementedType" ++
      named "coroutine new_class prepare_class resolve_bases" ++
      [("AsyncGeneratorType", .type "builtins.async_generator"),
        ("BuiltinFunctionType", .type "builtins.builtin_function_or_method"),
        ("BuiltinMethodType", .type "builtins.builtin_function_or_method"),
        ("CellType", .type "builtins.cell"),
        ("ClassMethodDescriptorType", .type "builtins.classmethod_descriptor"),
        ("CodeType", .type "builtins.code"), ("CoroutineType", .type "builtins.coroutine"),
        ("EllipsisType", .type "builtins.ellipsis"), ("FrameType", .type "builtins.frame"),
        ("FunctionType", .type "builtins.function"),
        ("GeneratorType", .type "builtins.generator"),
        ("GetSetDescriptorType", .type "builtins.getset_descriptor"),
        ("LambdaType", .type "builtins.function"),
        ("MappingProxyType", .type "builtins.mappingproxy"),
        ("MemberDescriptorType", .type "builtins.member_descriptor"),
        ("MethodDescriptorType", .type "builtins.method_descriptor"),
        ("MethodType", .type "builtins.method"),
        ("MethodWrapperType", .type "builtins.method-wrapper"),
        ("ModuleType", .type "builtins.module"),
        ("TracebackType", .type "builtins.traceback"),
        ("WrapperDescriptorType", .type "builtins.wrapper_descriptor")] },
  { name := "unittest"
    isPackage := true
    members :=
      types "unittest.suite" "BaseTestSuite TestSuite" ++
      types "unittest.case" "FunctionTestCase SkipTest TestCase" ++
      types "unittest.async_case" "IsolatedAsyncioTestCase" ++
      types "unittest.loader" "TestLoader" ++
      types "unittest.main" "TestProgram" ++
      types "unittest.result" "TestResult" ++
      types "unittest.runner" "TextTestResult TextTestRunner" ++
      named "addModuleCleanup doModuleCleanups enterModuleContext expectedFailure findTestCases
        getTestCaseNames installHandler load_tests makeSuite registerResult removeHandler
        removeResult skip skipIf skipUnless" ++
      values "TestLoader" "defaultTestLoader" ++
      [("case", .named "unittest.case"), ("loader", .named "unittest.loader"),
        ("main", .type "unittest.main.TestProgram"), ("mock", .named "unittest.mock"),
        ("result", .named "unittest.result"), ("runner", .named "unittest.runner"),
        ("signals", .named "unittest.signals"), ("suite", .named "unittest.suite"),
        ("util", .named "unittest.util")] },
  { name := "urllib", isPackage := true, members := parts "urllib" "parse" },
  { name := "urllib.parse"
    members :=
      types "urllib.parse" "DefragResult DefragResultBytes ParseResult ParseResultBytes
        SplitResult SplitResultBytes" ++
      named "clear_cache functools ipaddress namedtuple parse_qs parse_qsl quote
        quote_from_bytes quote_plus re splitattr splithost splitnport splitpasswd splitport
        splitquery splittag splittype splituser splitvalue sys to_bytes types unquote
        unquote_plus unquote_to_bytes unwrap urldefrag urlencode urljoin urlparse urlsplit
        urlunparse urlunsplit warnings" ++
      values "list" "non_hierarchical uses_fragment uses_netloc uses_params uses_query
        uses_relative" ++
      values "str" "scheme_chars" ++
      [("ResultBase", .type "urllib.parse._NetlocResultMixinStr")] },
  { name := "uuid"
    members :=
      types "uuid" "SafeUUID UUID" ++
      types "enum" "Enum" ++
      named "getnode os platform sys uuid1 uuid3 uuid4 uuid5" ++
      values "UUID" "NAMESPACE_DNS NAMESPACE_OID NAMESPACE_URL NAMESPACE_X500" ++
      values "str" "RESERVED_FUTURE RESERVED_MICROSOFT RESERVED_NCS RFC_4122" ++
      [("bytes_", .type "builtins.bytes"), ("int_", .type "builtins.int")] },
  { name := "warnings"
    members :=
      types "warnings" "WarningMessage catch_warnings" ++
      named "filterwarnings formatwarning resetwarnings showwarning simplefilter sys warn
        warn_explicit" ++
      values "str" "defaultaction" ++
      values "list" "filters" ++
      values "dict" "onceregistry" },
  { name := "weakref"
    members :=
      types "weakref" "CallableProxyType KeyedRef ProxyType ReferenceType WeakKeyDictionary
        WeakMethod WeakValueDictionary finalize" ++
      types "_weakrefset" "WeakSet" ++
      named "getweakrefcount getweakrefs itertools proxy sys" ++
      values "tuple" "ProxyTypes" ++
      [("ref", .type "weakref.ReferenceType")] }]

end WideColumn.Component
