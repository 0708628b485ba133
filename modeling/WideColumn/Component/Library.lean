import WideColumn.Component.FurtherLibrary

/-!
Modules that are there for everybody, with the names that they make known.
-/
namespace WideColumn.Component

/-- Forms that accept the kinds of the types of the same names in a module. -/
def formsOf (home names : String) : List (String × Meaning) :=
  (words names).map fun name => (name, .form name (.kindsOf (home ++ "." ++ name)))

/-- Forms that say nothing by themselves. -/
def bareForms (names : String) : List (String × Meaning) :=
  (words names).map fun name => (name, .form name (.bare ("typing." ++ name)))

/-- Forms whose names have the module in front. -/
def formsNamed (home names : String) : List (String × Meaning) :=
  (words names).map fun name =>
    (name, .form (home ++ "." ++ name) (.kindsOf (home ++ "." ++ name)))

def typingForms : List (String × Meaning) :=
  formsOf "collections.abc" "AsyncGenerator AsyncIterable AsyncIterator Awaitable ByteString
    Callable Collection Container Coroutine Generator Hashable ItemsView Iterable Iterator KeysView
    Mapping MappingView MutableMapping MutableSequence MutableSet Reversible Sequence Sized
    ValuesView" ++
  formsOf "collections" "ChainMap Counter OrderedDict" ++
  formsOf "re" "Match Pattern" ++
  bareForms "ClassVar Concatenate Final Literal LiteralString Never NoReturn NotRequired
    Optional Required Self TypeAlias TypeGuard Union Unpack" ++
  [("AbstractSet", .form "AbstractSet" (.kindsOf "collections.abc.Set")),
   ("AsyncContextManager",
    .form "AsyncContextManager" (.kindsOf "contextlib.AbstractAsyncContextManager")),
   ("ContextManager", .form "ContextManager" (.kindsOf "contextlib.AbstractContextManager")),
   ("DefaultDict", .form "DefaultDict" (.kindsOf "collections.defaultdict")),
   ("Deque", .form "Deque" (.kindsOf "collections.deque")),
   ("Dict", .form "Dict" (.kindsOf "builtins.dict")),
   ("FrozenSet", .form "FrozenSet" (.kindsOf "builtins.frozenset")),
   ("List", .form "List" (.kindsOf "builtins.list")),
   ("Set", .form "Set" (.kindsOf "builtins.set")),
   ("Tuple", .form "Tuple" (.kindsOf "builtins.tuple")),
   ("Type", .form "Type" (.kindsOf "builtins.type"))]

def typingNames (names : String) : List (String × Meaning) :=
  (words names).map fun name =>
    match typingForms.find? (·.1 = name) with
    | some form => form
    | none => (name, .type ("typing." ++ name))

def basicModules : List Module := [
  { name := "builtins"
    members :=
      types "builtins" "ArithmeticError AssertionError AttributeError BaseException
        BaseExceptionGroup BlockingIOError BrokenPipeError BufferError BytesWarning
        ChildProcessError ConnectionAbortedError ConnectionError ConnectionRefusedError
        ConnectionResetError DeprecationWarning EOFError EncodingWarning Exception ExceptionGroup
        FileExistsError FileNotFoundError FloatingPointError FutureWarning GeneratorExit
        ImportError ImportWarning IndentationError IndexError InterruptedError IsADirectoryError
        KeyError KeyboardInterrupt LookupError MemoryError ModuleNotFoundError NameError
        NotADirectoryError NotImplementedError OSError OverflowError PendingDeprecationWarning
        PermissionError ProcessLookupError RecursionError ReferenceError ResourceWarning
        RuntimeError RuntimeWarning StopAsyncIteration StopIteration SyntaxError SyntaxWarning
        SystemError SystemExit TabError TimeoutError TypeError UnboundLocalError UnicodeDecodeError
        UnicodeEncodeError UnicodeError UnicodeTranslateError UnicodeWarning UserWarning ValueError
        Warning ZeroDivisionError bool bytearray bytes classmethod complex dict enumerate filter
        float frozenset int list map memoryview object property range reversed set slice
        staticmethod str super tuple type zip" ++
      named "abs aiter all anext any ascii bin breakpoint callable chr compile delattr dir divmod
        eval exec format getattr globals hasattr hash hex id input isinstance issubclass iter len
        locals max min next oct open ord pow print repr round setattr sorted sum vars" ++
      values "ellipsis" "Ellipsis" ++
      values "bool" "False True" ++
      values "NoneType" "None" ++
      values "NotImplementedType" "NotImplemented" ++
      values "_Printer" "copyright credits license" ++
      values "Quitter" "exit quit" ++
      values "_Helper" "help" ++
      [("EnvironmentError", .type "builtins.OSError"), ("IOError", .type "builtins.OSError")] },
  { name := "abc"
    members :=
      types "abc" "ABC ABCMeta abstractclassmethod abstractproperty abstractstaticmethod" ++
      named "abstractmethod get_cache_token update_abstractmethods" },
  { name := "collections"
    isPackage := true
    members :=
      types "collections" "ChainMap Counter OrderedDict UserDict UserList UserString
        defaultdict deque" ++
      named "namedtuple" ++
      [("abc", .named "collections.abc")] },
  { name := "collections.abc"
    members :=
      types "collections.abc" "AsyncGenerator AsyncIterable AsyncIterator Awaitable
        ByteString Callable Collection Container Coroutine Generator Hashable ItemsView Iterable
        Iterator KeysView Mapping MappingView MutableMapping MutableSequence MutableSet Reversible
        Sequence Set Sized ValuesView" },
  { name := "contextlib"
    members :=
      types "contextlib" "AbstractAsyncContextManager AbstractContextManager
        AsyncContextDecorator AsyncExitStack ContextDecorator ExitStack aclosing chdir closing
        nullcontext redirect_stderr redirect_stdout suppress" ++
      types "types" "GenericAlias" ++
      types "collections" "deque" ++
      named "abc asynccontextmanager contextmanager os sys wraps" ++
      [("MethodType", .type "builtins.method")] },
  { name := "dataclasses"
    members :=
      types "dataclasses" "Field FrozenInstanceError InitVar" ++
      types "types" "GenericAlias" ++
      named "abc asdict astuple builtins copy dataclass field fields functools inspect
        is_dataclass itertools keyword make_dataclass re replace sys types" ++
      values "_KW_ONLY_TYPE" "KW_ONLY" ++
      values "_MISSING_TYPE" "MISSING" ++
      [("FunctionType", .type "builtins.function")] },
  { name := "datetime"
    members :=
      types "datetime" "date datetime time timedelta timezone tzinfo" ++
      named "sys" ++
      values "int" "MAXYEAR MINYEAR" ++
      values "datetime.timezone" "UTC" ++
      values "PyCapsule" "datetime_CAPI" },
  { name := "enum"
    members :=
      types "enum" "Enum EnumCheck EnumType Flag FlagBoundary IntEnum IntFlag ReprEnum
        StrEnum auto member nonmember property verify" ++
      types "types" "DynamicClassAttribute" ++
      named "bin global_enum global_enum_repr global_flag_repr global_str pickle_by_enum_name
        pickle_by_global_name reduce show_flag_values sys unique" ++
      values "FlagBoundary" "CONFORM EJECT KEEP STRICT" ++
      values "EnumCheck" "CONTINUOUS NAMED_FLAGS UNIQUE" ++
      [("EnumMeta", .type "enum.EnumType"),
        ("MappingProxyType", .type "builtins.mappingproxy"), ("bltns", .named "builtins")] },
  { name := "functools"
    members :=
      types "functools" "cached_property partial partialmethod singledispatchmethod" ++
      types "types" "GenericAlias" ++
      types "_thread" "RLock" ++
      named "cache cmp_to_key get_cache_token lru_cache namedtuple recursive_repr reduce
        singledispatch total_ordering update_wrapper wraps" ++
      values "tuple" "WRAPPER_ASSIGNMENTS WRAPPER_UPDATES" },
  { name := "itertools"
    members :=
      types "itertools" "accumulate chain combinations combinations_with_replacement compress
        count cycle dropwhile filterfalse groupby islice pairwise permutations product repeat
        starmap takewhile zip_longest" ++
      named "tee" },
  { name := "math"
    members :=
      named "acos acosh asin asinh atan atan2 atanh cbrt ceil comb copysign cos cosh degrees dist
        erf erfc exp exp2 expm1 fabs factorial floor fmod frexp fsum gamma gcd hypot isclose
        isfinite isinf isnan isqrt lcm ldexp lgamma log log10 log1p log2 modf nextafter perm pow
        prod radians remainder sin sinh sqrt tan tanh trunc ulp" ++
      values "float" "e inf nan pi tau" },
  { name := "string"
    members :=
      types "string" "Formatter Template" ++
      named "capwords" ++
      values "str" "ascii_letters ascii_lowercase ascii_uppercase digits hexdigits octdigits
        printable punctuation whitespace" },
  { name := "struct"
    members :=
      types "struct" "error" ++
      types "_struct" "Struct" ++
      named "calcsize iter_unpack pack pack_into unpack unpack_from" },
  { name := "typing"
    members :=
      types "typing" "Annotated Any BinaryIO ForwardRef Generic IO NamedTupleMeta NewType
        ParamSpec ParamSpecArgs ParamSpecKwargs Protocol SupportsAbs SupportsBytes SupportsComplex
        SupportsFloat SupportsIndex SupportsInt SupportsRound TextIO TypeVar TypeVarTuple" ++
      types "abc" "ABCMeta" ++
      types "types" "GenericAlias" ++
      types "collections" "defaultdict" ++
      typingForms ++ formsNamed "typing" "io re" ++
      named "AnyStr CT_co KT NamedTuple T T_co T_contra TypedDict VT VT_co V_co abstractmethod
        assert_never assert_type cast clear_overloads collections contextlib dataclass_transform
        final functools get_args get_origin get_overloads get_type_hints is_typeddict no_type_check
        no_type_check_decorator operator overload reveal_type runtime_checkable sys types
        warnings" ++
      values "list" "EXCLUDED_ATTRIBUTES" ++
      values "bool" "TYPE_CHECKING" ++
      [("MethodDescriptorType", .type "builtins.method_descriptor"),
        ("MethodWrapperType", .type "builtins.method-wrapper"), ("Text", .type "builtins.str"),
        ("WrapperDescriptorType", .type "builtins.wrapper_descriptor"),
        ("stdlib_re", .named "re")] }]

def systemModules : List Module := [
  { name := "importlib"
    isPackage := true
    members :=
      named "find_loader import_module invalidate_caches reload sys warnings" ++
      parts "importlib" "machinery util" },
  { name := "io"
    members :=
      types "io" "BufferedIOBase IOBase RawIOBase TextIOBase UnsupportedOperation" ++
      types "builtins" "BlockingIOError" ++
      types "_io" "BufferedRWPair BufferedRandom BufferedReader BufferedWriter BytesIO FileIO
        IncrementalNewlineDecoder StringIO TextIOWrapper" ++
      named "abc open open_code text_encoding" ++
      values "int" "DEFAULT_BUFFER_SIZE SEEK_CUR SEEK_END SEEK_SET" },
  { name := "json"
    isPackage := true
    members :=
      types "json.decoder" "JSONDecodeError JSONDecoder" ++
      types "json.encoder" "JSONEncoder" ++
      named "codecs detect_encoding dump dumps load loads" ++
      [("decoder", .named "json.decoder"), ("encoder", .named "json.encoder"),
        ("scanner", .named "json.scanner")] },
  { name := "json.decoder"
    members :=
      types "json.decoder" "JSONDecodeError JSONDecoder" ++
      named "JSONArray JSONObject py_scanstring re scanstring" ++
      values "dict" "BACKSLASH" ++
      values "RegexFlag" "FLAGS" ++
      values "float" "NaN NegInf PosInf" ++
      values "re.Pattern" "STRINGCHUNK WHITESPACE" ++
      values "str" "WHITESPACE_STR" ++
      [("c_scanstring", .named "scanstring"), ("scanner", .named "json.scanner")] },
  { name := "json.encoder"
    members :=
      types "json.encoder" "JSONEncoder" ++
      named "encode_basestring encode_basestring_ascii py_encode_basestring
        py_encode_basestring_ascii re" ++
      values "re.Pattern" "ESCAPE ESCAPE_ASCII HAS_UTF8" ++
      values "dict" "ESCAPE_DCT" ++
      values "float" "INFINITY" ++
      [("c_make_encoder", .type "_json.Encoder"),
        ("c_encode_basestring", .named "encode_basestring"),
        ("c_encode_basestring_ascii", .named "encode_basestring_ascii")] },
  { name := "logging"
    isPackage := true
    members :=
      types "logging" "BufferingFormatter FileHandler Filter Filterer Formatter Handler
        LogRecord Logger LoggerAdapter Manager NullHandler PercentStyle PlaceHolder RootLogger
        StrFormatStyle StreamHandler StringTemplateStyle" ++
      types "types" "GenericAlias" ++
      types "string" "Template" ++
      named "addLevelName atexit basicConfig captureWarnings collections critical debug disable
        error exception fatal getLevelName getLevelNamesMapping getLogRecordFactory getLogger
        getLoggerClass info io log makeLogRecord os re setLogRecordFactory setLoggerClass shutdown
        sys threading time traceback warn warning warnings weakref" ++
      values "str" "BASIC_FORMAT" ++
      values "int" "CRITICAL DEBUG ERROR FATAL INFO NOTSET WARN WARNING" ++
      values "_StderrHandler" "lastResort" ++
      values "bool" "logMultiprocessing logProcesses logThreads raiseExceptions" ++
      values "RootLogger" "root" ++
      [("currentframe", .named "<lambda>")] },
  { name := "os"
    members :=
      types "os" "PathLike stat_result statvfs_result terminal_size" ++
      types "posix" "DirEntry sched_param times_result uname_result waitid_result" ++
      types "types" "GenericAlias" ++
      types "collections.abc" "Mapping MutableMapping" ++
      named "WCOREDUMP WEXITSTATUS WIFCONTINUED WIFEXITED WIFSIGNALED WIFSTOPPED WSTOPSIG WTERMSIG
        abc abort access chdir chmod chown chroot close closerange confstr cpu_count ctermid
        device_encoding dup dup2 eventfd eventfd_read eventfd_write execl execle execlp execlpe
        execv execve execvp execvpe fchdir fchmod fchown fdatasync fdopen fork forkpty fpathconf
        fsdecode fsencode fspath fstat fstatvfs fsync ftruncate fwalk get_blocking get_exec_path
        get_inheritable get_terminal_size getcwd getcwdb getegid getenv getenvb geteuid getgid
        getgrouplist getgroups getloadavg getlogin getpgid getpgrp getpid getppid getpriority
        getresgid getresuid getsid getuid getxattr initgroups isatty kill killpg lchown link
        listdir listxattr lockf login_tty lseek lstat major makedev makedirs minor mkdir mkfifo
        mknod nice open openpty pathconf pipe pipe2 popen posix_fadvise posix_fallocate posix_spawn
        posix_spawnp pread preadv putenv pwrite pwritev read readlink readv register_at_fork remove
        removedirs removexattr rename renames replace rmdir scandir sched_get_priority_max
        sched_get_priority_min sched_getaffinity sched_getparam sched_getscheduler
        sched_rr_get_interval sched_setaffinity sched_setparam sched_setscheduler sched_yield
        sendfile set_blocking set_inheritable setegid seteuid setgid setgroups setpgid setpgrp
        setpriority setregid setresgid setresuid setreuid setsid setuid setxattr spawnl spawnle
        spawnlp spawnlpe spawnv spawnve spawnvp spawnvpe splice stat statvfs strerror symlink sync
        sys sysconf system tcgetpgrp tcsetpgrp times truncate ttyname umask uname unlink unsetenv
        urandom utime wait wait3 wait4 waitid waitpid waitstatus_to_exitcode walk write writev" ++
      values "int" "CLD_CONTINUED CLD_DUMPED CLD_EXITED CLD_KILLED CLD_STOPPED CLD_TRAPPED
        EFD_CLOEXEC EFD_NONBLOCK EFD_SEMAPHORE EX_CANTCREAT EX_CONFIG EX_DATAERR EX_IOERR EX_NOHOST
        EX_NOINPUT EX_NOPERM EX_NOUSER EX_OK EX_OSERR EX_OSFILE EX_PROTOCOL EX_SOFTWARE EX_TEMPFAIL
        EX_UNAVAILABLE EX_USAGE F_LOCK F_OK F_TEST F_TLOCK F_ULOCK NGROUPS_MAX O_ACCMODE O_APPEND
        O_ASYNC O_CLOEXEC O_CREAT O_DIRECT O_DIRECTORY O_DSYNC O_EXCL O_FSYNC O_LARGEFILE O_NDELAY
        O_NOATIME O_NOCTTY O_NOFOLLOW O_NONBLOCK O_PATH O_RDONLY O_RDWR O_RSYNC O_SYNC O_TMPFILE
        O_TRUNC O_WRONLY POSIX_FADV_DONTNEED POSIX_FADV_NOREUSE POSIX_FADV_NORMAL POSIX_FADV_RANDOM
        POSIX_FADV_SEQUENTIAL POSIX_FADV_WILLNEED POSIX_SPAWN_CLOSE POSIX_SPAWN_DUP2
        POSIX_SPAWN_OPEN PRIO_PGRP PRIO_PROCESS PRIO_USER P_ALL P_NOWAIT P_NOWAITO P_PGID P_PID
        P_WAIT RTLD_DEEPBIND RTLD_GLOBAL RTLD_LAZY RTLD_LOCAL RTLD_NODELETE RTLD_NOLOAD RTLD_NOW
        R_OK SCHED_BATCH SCHED_FIFO SCHED_IDLE SCHED_OTHER SCHED_RESET_ON_FORK SCHED_RR SEEK_CUR
        SEEK_DATA SEEK_END SEEK_HOLE SEEK_SET SPLICE_F_MORE SPLICE_F_MOVE SPLICE_F_NONBLOCK
        ST_APPEND ST_MANDLOCK ST_NOATIME ST_NODEV ST_NODIRATIME ST_NOEXEC ST_NOSUID ST_RDONLY
        ST_RELATIME ST_SYNCHRONOUS ST_WRITE TMP_MAX WCONTINUED WEXITED WNOHANG WNOWAIT WSTOPPED
        WUNTRACED W_OK XATTR_CREATE XATTR_REPLACE XATTR_SIZE_MAX X_OK" ++
      values "NoneType" "altsep" ++
      values "dict" "confstr_names pathconf_names sysconf_names" ++
      values "str" "curdir defpath devnull extsep linesep name pardir pathsep sep" ++
      values "_Environ" "environ environb" ++
      values "bool" "supports_bytes_environ" ++
      values "set" "supports_dir_fd supports_effective_ids supports_fd supports_follow_symlinks" ++
      [("error", .type "builtins.OSError"), ("path", .named "posixpath"), ("st", .named "stat")] },
  { name := "os.path"
    members :=
      named "abspath basename commonpath commonprefix dirname exists expanduser expandvars
        genericpath getatime getctime getmtime getsize isabs isdir isfile islink ismount join
        lexists normcase normpath os realpath relpath samefile sameopenfile samestat split
        splitdrive splitext stat sys" ++
      values "NoneType" "altsep" ++
      values "str" "curdir defpath devnull extsep pardir pathsep sep" ++
      values "bool" "supports_unicode_filenames" },
  { name := "pathlib"
    members :=
      types "pathlib" "Path PosixPath PurePath PurePosixPath PureWindowsPath WindowsPath" ++
      types "collections.abc" "Sequence" ++
      types "operator" "attrgetter" ++
      named "S_ISBLK S_ISCHR S_ISDIR S_ISFIFO S_ISLNK S_ISREG S_ISSOCK fnmatch functools io ntpath
        os posixpath re sys warnings" ++
      values "int" "EBADF ELOOP ENOENT ENOTDIR" ++
      [("urlquote_from_bytes", .named "quote_from_bytes")] },
  { name := "queue"
    members :=
      types "queue" "Full LifoQueue PriorityQueue Queue" ++
      types "_queue" "Empty SimpleQueue" ++
      types "collections" "deque" ++
      named "heappop heappush threading types" ++
      [("time", .named "monotonic")] },
  { name := "re"
    isPackage := true
    members :=
      types "re" "Match Pattern RegexFlag Scanner error" ++
      named "compile copyreg enum escape findall finditer fullmatch functools match purge search
        split sub subn template" ++
      values "RegexFlag" "A ASCII DEBUG DOTALL I IGNORECASE L LOCALE M MULTILINE NOFLAG S T
        TEMPLATE U UNICODE VERBOSE X" },
  { name := "sys"
    members :=
      named "addaudithook audit breakpointhook call_tracing displayhook exc_info excepthook
        exception exit get_asyncgen_hooks get_coroutine_origin_tracking_depth
        get_int_max_str_digits getallocatedblocks getdefaultencoding getdlopenflags
        getfilesystemencodeerrors getfilesystemencoding getprofile getrecursionlimit getrefcount
        getsizeof getswitchinterval gettrace intern is_finalizing set_asyncgen_hooks
        set_coroutine_origin_tracking_depth set_int_max_str_digits setdlopenflags setprofile
        setrecursionlimit setswitchinterval settrace unraisablehook" ++
      values "str" "abiflags base_exec_prefix base_prefix byteorder copyright exec_prefix
        executable float_repr_style platform platlibdir prefix version" ++
      values "int" "api_version hexversion maxsize maxunicode" ++
      values "list" "argv meta_path orig_argv path path_hooks warnoptions" ++
      values "tuple" "builtin_module_names" ++
      values "bool" "dont_write_bytecode" ++
      values "sys.flags" "flags" ++
      values "sys.float_info" "float_info" ++
      values "sys.hash_info" "hash_info" ++
      values "types.SimpleNamespace" "implementation" ++
      values "sys.int_info" "int_info" ++
      values "dict" "modules path_importer_cache" ++
      values "NoneType" "pycache_prefix" ++
      values "_io.TextIOWrapper" "stderr stdin stdout" ++
      values "frozenset" "stdlib_module_names" ++
      values "sys.thread_info" "thread_info" ++
      values "sys.version_info" "version_info" },
  { name := "threading"
    members :=
      types "threading" "Barrier BoundedSemaphore BrokenBarrierError Condition Event
        Semaphore Thread Timer" ++
      types "_weakrefset" "WeakSet" ++
      named "RLock activeCount active_count currentThread current_thread enumerate functools
        get_ident get_native_id getprofile gettrace main_thread setprofile settrace stack_size" ++
      values "float" "TIMEOUT_MAX" ++
      [("ExceptHookArgs", .type "_thread._ExceptHookArgs"),
        ("ThreadError", .type "builtins.RuntimeError"), ("local", .type "_thread._local"),
        ("Lock", .named "allocate_lock"), ("excepthook", .named "_excepthook")] },
  { name := "time"
    members :=
      types "time" "struct_time" ++
      named "asctime clock_getres clock_gettime clock_gettime_ns clock_settime clock_settime_ns
        ctime get_clock_info gmtime localtime mktime monotonic monotonic_ns perf_counter
        perf_counter_ns process_time process_time_ns pthread_getcpuclockid sleep strftime strptime
        thread_time thread_time_ns time time_ns tzset" ++
      values "int" "CLOCK_BOOTTIME CLOCK_MONOTONIC CLOCK_MONOTONIC_RAW CLOCK_PROCESS_CPUTIME_ID
        CLOCK_REALTIME CLOCK_THREAD_CPUTIME_ID altzone daylight timezone" ++
      values "tuple" "tzname" },
  { name := "xml"
    isPackage := true
    members :=
      [("etree", .named "xml.etree")] },
  { name := "xml.etree"
    isPackage := true
    members :=
      [("ElementPath", .named "xml.etree.ElementPath"),
        ("ElementTree", .named "xml.etree.ElementTree")] },
  { name := "xml.etree.ElementTree"
    members :=
      types "xml.etree.ElementTree" "C14NWriterTarget Element ElementTree ParseError QName
        TreeBuilder XMLParser XMLPullParser" ++
      named "Comment ProcessingInstruction SubElement XML XMLID canonicalize collections
        contextlib dump fromstringlist indent io iselement iterparse parse re register_namespace
        sys tostring tostringlist warnings weakref" ++
      values "set" "HTML_EMPTY" ++
      values "str" "VERSION" ++
      [("ElementPath", .named "xml.etree.ElementPath"), ("PI", .named "ProcessingInstruction"),
        ("fromstring", .named "XML")] }]

def neighbourModules : List Module := [
  { name := "flask", isPackage := true
    members := types "flask.app" "Flask" ++ types "flask.blueprints" "Blueprint" ++
      types "flask.config" "Config" ++ types "flask.wrappers" "Request Response" ++
      named "abort after_this_request copy_current_request_context flash get_flashed_messages
        get_template_attribute has_app_context has_request_context jsonify make_response redirect
        render_template render_template_string send_file send_from_directory stream_template
        stream_template_string stream_with_context url_for" ++
      parts "flask" "app blueprints config wrappers" },
  { name := "flask.app", members := types "flask.app" "Flask" },
  { name := "flask.wrappers", members := types "flask.wrappers" "Request Response" },
  { name := "happybase", members := types "happybase" "Connection" },
  { name := "prometheus_client", isPackage := true
    members := types "prometheus_client.metrics" "Counter Gauge Histogram Info Summary Enum" ++
      types "prometheus_client.registry" "CollectorRegistry" ++
      named "delete_from_gateway generate_latest instance_ip_grouping_key make_asgi_app
        make_wsgi_app push_to_gateway pushadd_to_gateway start_http_server start_wsgi_server
        write_to_textfile" ++
      values "CollectorRegistry" "REGISTRY" ++ values "str" "CONTENT_TYPE_LATEST" ++
      parts "prometheus_client" "metrics registry" },
  { name := "prometheus_client.metrics"
    members := types "prometheus_client.metrics" "Counter Gauge Histogram Info Summary Enum" },
  { name := "prometheus_client.registry"
    members := types "prometheus_client.registry" "CollectorRegistry" ++
      values "CollectorRegistry" "REGISTRY" },
  { name := "unittest.mock"
    members := types "unittest.mock" "Mock MagicMock AsyncMock PropertyMock" ++
      named "call create_autospec patch" }]

def libraryModules : List Module :=
  basicModules ++ systemModules ++ furtherModules ++ neighbourModules

end WideColumn.Component
