import WideColumn.Component.Library
import WideColumn.Component.LibraryTypes

/-!
The catalogue of components: the modules of the service, to which a dotted path can lead, and what
their names stand for. Settings name components in this form.
-/
namespace WideColumn.Component

def coreModules : List Module := [
  { name := "hbase_service"
    isPackage := true
    members := named "importlib logging load_class instantiate_from_full_name" ++
      values "Logger" "logger" ++
      parts "hbase_service" "bytes_util model exceptions config_validator properties_configurator
        filter client metrics pubsub routes" },
  { name := "hbase_service.bytes_util"
    members := named "re struct to_bytes to_bytes_binary" ++ values "re.Pattern" "_BINARY_ESCAPE" },
  { name := "hbase_service.model"
    members := named "dataclass field _as_bytes" ++ typingNames "List Optional Tuple Union" ++
      [("BytesLike", .form "Union" (.anyOf ["builtins.bytes", "builtins.bytearray",
        "builtins.str"]))] ++
      types "hbase_service.model" "PutColumn PutRequest CellPut RowMutation ColumnSpec RawCell
        RawResult ResultCell" },
  { name := "hbase_service.exceptions"
    members := types "hbase_service.exceptions" "HBaseServiceError ConfigurationInvalid
      InvalidFilterSyntax StoreIOError HandlerAborted ServiceNotEnabled" },
  { name := "hbase_service.config_validator"
    members := named "logging dataclass _is_blank parse_conf_files validate_configuration" ++
      typingNames "Mapping Optional" ++
      values "Logger" "logger" ++ values "ConfigValidator" "_validator" ++
      values "str" "CONF_FILES ZOOKEEPER_QUORUM ZOOKEEPER_CLIENT_PORT ZOOKEEPER_ZNODE_PARENT" ++
      values "tuple" "ZOOKEEPER_PROPERTIES" ++
      types "hbase_service.config_validator" "ValidationResult ConfigValidator" },
  { name := "hbase_service.properties_configurator"
    members := named "logging os re threading" ++ values "Logger" "logger" ++
      values "re.Pattern" "_ENV_PATTERN _SEPARATOR" ++
      types "hbase_service.properties_configurator" "PropertiesConfigurator" },
  { name := "hbase_service.metrics"
    isPackage := true
    members := named "time_block" ++ values "HBaseServiceMetrics" "metrics" ++
      values "list" "__all__" ++ parts "hbase_service.metrics" "prometheus_metrics" ++
      types "hbase_service.metrics.prometheus_metrics" "HBaseServiceMetrics" },
  { name := "hbase_service.metrics.prometheus_metrics"
    members := named "time logging contextmanager generate_latest time_block" ++
      typingNames "Optional Any" ++
      types "prometheus_client.metrics" "Counter Gauge Histogram Info" ++
      values "CollectorRegistry" "REGISTRY" ++ values "str" "CONTENT_TYPE_LATEST __version__" ++
      values "Logger" "logger" ++ values "tuple" "LATENCY_BUCKETS BATCH_BUCKETS" ++
      values "HBaseServiceMetrics" "metrics" ++
      types "hbase_service.metrics.prometheus_metrics" "HBaseServiceMetrics" },
  { name := "hbase_service.routes"
    isPackage := true
    members := values "list" "__all__" ++ parts "hbase_service.routes" "metrics_routes" ++
      types "hbase_service.routes.metrics_routes" "MetricsRoutes" },
  { name := "hbase_service.routes.metrics_routes"
    members := named "time logging jsonify" ++ types "datetime" "datetime timezone" ++
      types "flask.wrappers" "Response" ++ values "HBaseServiceMetrics" "default_metrics" ++
      values "Logger" "logger" ++ types "hbase_service.routes.metrics_routes" "MetricsRoutes" },
  { name := "run_server"
    members := named "os sys logging configure_logging add_external_module_paths create_app main" ++
      types "flask.app" "Flask" ++ values "Logger" "logger" ++
      values "str" "EXTERNAL_MODULE_PATH_PATTERN" ++
      types "hbase_service.client.client_service" "HBaseClientService" ++
      types "hbase_service.properties_configurator" "PropertiesConfigurator" ++
      types "hbase_service.routes.metrics_routes" "MetricsRoutes" }]

def filterNodeTypes : List (String × Meaning) :=
  types "hbase_service.filter.filter_nodes"
    "CompareOp Comparator ComparatorType FilterNode FilterLeaf FilterList FilterWrapper"

def filterModules : List Module := [
  { name := "hbase_service.filter"
    isPackage := true
    members := filterNodeTypes ++ named "parse_filter" ++ values "dict" "DEFAULT_FILTERS" ++
      values "list" "__all__" ++ parts "hbase_service.filter" "filter_nodes filter_parser" ++
      types "hbase_service.filter.filter_parser" "FilterParser ParseResult FilterSyntaxError" },
  { name := "hbase_service.filter.filter_nodes"
    members := filterNodeTypes ++ named "dataclass _quote render_argument" ++
      typingNames "Tuple Union" ++ types "enum" "Enum" ++
      [("Argument", .form "Union" (.anyOf ["builtins.bytes", "builtins.int", "builtins.bool",
        "hbase_service.filter.filter_nodes.CompareOp",
        "hbase_service.filter.filter_nodes.Comparator"]))] },
  { name := "hbase_service.filter.filter_parser"
    members := filterNodeTypes ++ named "logging dataclass tokenize parse_filter" ++
      typingNames "Dict List Optional Sequence Tuple" ++
      types "hbase_service.exceptions" "InvalidFilterSyntax" ++ values "Logger" "logger" ++
      values "str" "AND OR SKIP WHILE STR INT BOOL OP CMP T_LPAREN T_RPAREN T_COMMA T_STRING
        T_NUMBER T_NAME T_OP T_EOF" ++
      values "list" "_COMPARE_FILTER _SINGLE_COLUMN_VALUE_FILTER" ++
      values "dict" "DEFAULT_FILTERS _PUNCTUATION" ++ values "tuple" "_OPERATORS" ++
      values "FilterParser" "_default_parser" ++
      types "hbase_service.filter.filter_parser" "FilterSyntaxError ParseResult Token _SyntaxError
        FilterParser _Parser" }]

def factoryTypes : List (String × Meaning) :=
  types "hbase_service.client.connection" "ConnectionFactory ScanIteratorFactory"

def gatewayFactoryTypes : List (String × Meaning) :=
  types "hbase_service.client.connection"
    "HappyBaseConnectionFactory HappyBaseScanIteratorFactory"

def rowHandler : List (String × Meaning) := [("RowHandler", .form "Callable" .filledIn)]

def clientModules : List Module := [
  { name := "hbase_service.client"
    isPackage := true
    members := factoryTypes ++ gatewayFactoryTypes ++ rowHandler ++ named "to_result_cell" ++
      types "hbase_service.client.connection" "StoreConnection StoreTable Scanner" ++
      types "hbase_service.client.put_batcher" "PutBatcher" ++
      types "hbase_service.client.scan_executor" "ScanExecutor" ++
      types "hbase_service.client.client_service" "HBaseClientService" ++ values "list" "__all__" ++
      parts "hbase_service.client" "connection put_batcher scan_executor client_service" },
  { name := "hbase_service.client.connection"
    members := factoryTypes ++ gatewayFactoryTypes ++
      types "hbase_service.client.connection" "StoreTable StoreConnection Scanner HappyBaseTable
        HappyBaseConnection HappyBaseScanner" ++
      named "logging happybase abstractmethod runtime_checkable parse_conf_files
        load_site_configuration build_site_configuration split_column to_raw_result" ++
      [("ET", .named "xml.etree.ElementTree")] ++
      types "abc" "ABC" ++ types "itertools" "groupby" ++
      typingNames "Iterator List Optional Protocol Sequence" ++
      values "str" "CONF_FILES ZOOKEEPER_QUORUM ZOOKEEPER_CLIENT_PORT ZOOKEEPER_ZNODE_PARENT
        SITE_ZOOKEEPER_QUORUM SITE_ZOOKEEPER_CLIENT_PORT SITE_ZOOKEEPER_ZNODE_PARENT
        SITE_THRIFT_HOST SITE_THRIFT_PORT SITE_THRIFT_TIMEOUT SITE_THRIFT_TRANSPORT
        SITE_THRIFT_PROTOCOL" ++
      values "int" "DEFAULT_THRIFT_PORT" ++ values "Logger" "logger" ++
      types "hbase_service.filter.filter_nodes" "FilterNode" ++
      types "hbase_service.model" "ColumnSpec RawCell RawResult RowMutation" },
  { name := "hbase_service.client.put_batcher"
    members := named "logging" ++ typingNames "Dict Iterable List" ++ values "Logger" "logger" ++
      types "hbase_service.model" "PutRequest RowMutation" ++
      types "hbase_service.client.put_batcher" "PutBatcher" },
  { name := "hbase_service.client.scan_executor"
    members := rowHandler ++ named "logging time_block to_result_cell" ++
      typingNames "Callable Iterator Optional Sequence Tuple" ++
      types "hbase_service.client.connection" "ScanIteratorFactory StoreConnection" ++
      types "hbase_service.exceptions" "HandlerAborted HBaseServiceError StoreIOError" ++
      types "hbase_service.filter.filter_parser" "FilterParser" ++
      types "hbase_service.model" "ColumnSpec RawCell ResultCell" ++
      values "HBaseServiceMetrics" "default_metrics" ++ values "Logger" "logger" ++
      types "hbase_service.client.scan_executor" "ScanExecutor" },
  { name := "hbase_service.client.client_service"
    members := factoryTypes ++ gatewayFactoryTypes ++ rowHandler ++
      named "logging threading time time_block instantiate_from_full_name" ++
      types "datetime" "datetime" ++ typingNames "Iterable Optional Sequence" ++
      types "hbase_service.client.put_batcher" "PutBatcher" ++
      types "hbase_service.client.scan_executor" "ScanExecutor" ++
      types "hbase_service.config_validator" "ConfigValidator ValidationResult" ++
      types "hbase_service.exceptions" "ConfigurationInvalid HBaseServiceError ServiceNotEnabled
        StoreIOError" ++
      types "hbase_service.filter.filter_parser" "FilterParser" ++
      types "hbase_service.model" "ColumnSpec PutColumn PutRequest" ++
      values "HBaseServiceMetrics" "default_metrics" ++ values "Logger" "logger" ++
      values "str" "PROPERTY_PREFIX CONNECTION_FACTORY_PROPERTY SCAN_ITERATOR_FACTORY_PROPERTY" ++
      types "hbase_service.client.client_service" "HBaseClientService" }]

def streamTypes : List (String × Meaning) :=
  types "hbase_service.pubsub.datapubsub" "DataPublisher DataSubscriber"

def tableStreamTypes : List (String × Meaning) :=
  types "hbase_service.pubsub.hbase_datapubsub" "HBaseDataPublisher HBaseDataSubscriber"

def streamModules : List Module := [
  { name := "hbase_service.pubsub"
    isPackage := true
    members := streamTypes ++ tableStreamTypes ++ named "create_publisher create_subscriber" ++
      values "list" "__all__" ++
      parts "hbase_service.pubsub" "datapubsub hbase_datapubsub pubsubfactory" },
  { name := "hbase_service.pubsub.datapubsub"
    members := streamTypes ++ named "logging queue threading abstractmethod" ++ types "abc" "ABC" ++
      types "datetime" "datetime" ++ values "Logger" "logger" },
  { name := "hbase_service.pubsub.hbase_datapubsub"
    members := streamTypes ++ tableStreamTypes ++
      named "json logging queue time to_bytes to_bytes_binary parse_table encode_value
        encode_row_key record_to_put_request row_to_record _service_from_config" ++
      types "collections" "deque" ++
      types "hbase_service.client.client_service" "HBaseClientService" ++
      types "hbase_service.model" "ColumnSpec PutColumn PutRequest" ++
      values "HBaseServiceMetrics" "metrics" ++ values "Logger" "logger" ++
      values "str" "HBASE_SCHEME DEFAULT_ROW_KEY_FIELD TIMESTAMP_FIELD" },
  { name := "hbase_service.pubsub.pubsubfactory"
    members := streamTypes ++ named "logging re instantiate_from_full_name validate_name _class_for
        create_publisher create_subscriber" ++
      values "Logger" "logger" ++ values "re.Pattern" "_NAME_PATTERN" ++
      values "dict" "PUBLISHERS SUBSCRIBERS" }]

def standInModules : List Module := [
  { name := "tests"
    isPackage := true
    members := parts "tests" "mock_hbase" ++ values "NoneType" "__doc__" },
  { name := "tests.mock_hbase"
    members := factoryTypes ++ [("mock", .named "unittest.mock")] ++
      types "hbase_service.model" "RawCell RawResult" ++
      types "tests.mock_hbase" "MockConnectionFactory StagedScanner StagedScanIteratorFactory
        CollectingResultHandler" }]

def modules : List Module :=
  coreModules ++ filterModules ++ clientModules ++ streamModules ++ standInModules ++ libraryModules

def cellArguments : String :=
  "row_array row_offset row_length family_array family_offset family_length qualifier_array
    qualifier_offset qualifier_length value_array value_offset value_length timestamp"

def errorTypes : List TypeEntry :=
  let home := "hbase_service.exceptions"
  let base := home ++ ".HBaseServiceError"
  kinds home "builtins.Exception" "HBaseServiceError" ++ kinds home base "ServiceNotEnabled" ++
  [{ path := home ++ ".StoreIOError", bases := [base, "builtins.OSError"] },
   withArguments home "ConfigurationInvalid" "result" [base],
   withArguments home "InvalidFilterSyntax" "message" [base, "builtins.ValueError"],
   withArguments home "HandlerAborted" "message" [base],
   withArguments "hbase_service.filter.filter_parser" "_SyntaxError" "message position"
     ["builtins.Exception"]]

def dataTypes : List TypeEntry :=
  let model := fun (name arguments : String) => withArguments "hbase_service.model" name arguments
  let nodes := "hbase_service.filter.filter_nodes"
  let node := fun (name arguments : String) =>
    withArguments nodes name arguments [nodes ++ ".FilterNode"]
  let enumeration := fun (name : String) =>
    { path := nodes ++ "." ++ name, bases := ["enum.Enum"], making := .refused enumerationCall :
      TypeEntry }
  [model "PutColumn" "family qualifier value", model "PutRequest" "table row columns",
   model "CellPut" "family qualifier value",
   { model "RowMutation" "row" with methods := ["__len__"], gaps := ["__hash__"] },
   model "ColumnSpec" "family", model "RawCell" cellArguments, model "RawResult" "row cells",
   model "ResultCell" cellArguments,
   withArguments "hbase_service.config_validator" "ValidationResult" "valid",
   node "FilterLeaf" "name",
   { node "FilterList" "operator children" with methods := ["__len__"] },
   node "FilterWrapper" "kind child",
   withArguments nodes "Comparator" "type value",
   enumeration "CompareOp", enumeration "ComparatorType",
   withArguments "hbase_service.filter.filter_parser" "FilterSyntaxError" "message position",
   withArguments "hbase_service.filter.filter_parser" "Token" "kind text position",
   withArguments "hbase_service.filter.filter_parser" "_Parser" "filters tokens"]

/-- What a type is that only asks for methods. -/
def protocolType (name methods : String) : TypeEntry :=
  { path := "hbase_service.client.connection." ++ name
    bases := ["typing.Protocol"]
    methods := words methods
    demands := [words methods]
    making := .refused "Protocols cannot be instantiated" }

def clientTypes : List TypeEntry :=
  let connection := "hbase_service.client.connection"
  let factory := fun (name method : String) =>
    { path := connection ++ "." ++ name, bases := ["abc.ABC"], making := .isAbstract [method] :
      TypeEntry }
  let withMethods := fun (methods : String) (entry : TypeEntry) =>
    { entry with methods := words methods }
  [protocolType "StoreTable" "put delete", protocolType "StoreConnection" "table close",
   protocolType "Scanner" "__iter__ close",
   factory "ConnectionFactory" "create_connection", factory "ScanIteratorFactory" "create_scanner",
   withMethods "put delete" (withArguments connection "HappyBaseTable" "table"),
   withMethods "table close" (withArguments connection "HappyBaseConnection" "connection"),
   withMethods "__iter__ close" (withArguments connection "HappyBaseScanner" "generator"),
   withMethods "put delete"
     (withArguments "hbase_service.client.client_service" "HBaseClientService" "name"),
   withArguments "hbase_service.client.scan_executor" "ScanExecutor" "scan_iterator_factory",
   withArguments "hbase_service.routes.metrics_routes" "MetricsRoutes" "app",
   withMethods "__iter__ close" (withArguments "tests.mock_hbase" "StagedScanner" "results"),
   withMethods "__call__" { path := "tests.mock_hbase.CollectingResultHandler" }] ++
  kinds connection (connection ++ ".ConnectionFactory") "HappyBaseConnectionFactory" ++
  kinds connection (connection ++ ".ScanIteratorFactory") "HappyBaseScanIteratorFactory" ++
  kinds "tests.mock_hbase" (connection ++ ".ConnectionFactory") "MockConnectionFactory" ++
  kinds "tests.mock_hbase" (connection ++ ".ScanIteratorFactory") "StagedScanIteratorFactory"

def streamTypeEntries : List TypeEntry :=
  let home := "hbase_service.pubsub.datapubsub"
  let table := fun (name arguments base : String) =>
    withArguments "hbase_service.pubsub.hbase_datapubsub" name arguments [home ++ "." ++ base]
  [{ path := home ++ ".DataPublisher", bases := ["abc.ABC"]
     making := .isAbstract ["_do_publish"] },
   { path := home ++ ".DataSubscriber", bases := ["abc.ABC"]
     making := .isAbstract ["_do_subscribe"] },
   table "HBaseDataPublisher" "name destination config" "DataPublisher",
   table "HBaseDataSubscriber" "name source config" "DataSubscriber"]

/-- The type of the metrics. There can be no second set of metrics under the same names. -/
def metricsTypes : List TypeEntry :=
  [{ path := "hbase_service.metrics.prometheus_metrics.HBaseServiceMetrics"
     making :=
       .failed "ValueError" <| "Duplicated timeseries in CollectorRegistry: " ++
         "\x7b'hbase_service_app', 'hbase_service_app_info'\x7d" }]

def typeEntries : List TypeEntry :=
  errorTypes ++ dataTypes ++ clientTypes ++ streamTypeEntries ++ metricsTypes

end WideColumn.Component
