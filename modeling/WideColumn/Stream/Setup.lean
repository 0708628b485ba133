import WideColumn.Stream.Name
import WideColumn.Stream.TableFeed
import WideColumn.Stream.TableSink

/-!
Making publishers and subscribers from a configuration. Their tables are named by addresses; the
service is a shared one, or else one that is made from the configuration and enabled at once. A
configuration can have any value under a key, so each entry is checked where it is used.
-/
namespace WideColumn.Stream

abbrev Config := OrderedMap String Value

def tableScheme : String := "hbase://"

def isTableAddress (address : String) : Bool := tableScheme.toList.isPrefixOf address.toList

def trimSlashes (cs : List Char) : List Char :=
  let isSlash := fun c : Char => c = '/'
  (((cs.dropWhile isSlash).reverse).dropWhile isSlash).reverse

def parseTableName (address : String) : Except SetupError String :=
  let cs := address.toList
  let name := trimSlashes (if isTableAddress address then cs.drop tableScheme.length else cs)
  if name.isEmpty then .error (.noTableName address) else .ok (String.ofList name)

def parseTable (address : Value) : Except Fault String := do
  let text ← (Record.textToStart address).mapError .mismatch
  (parseTableName text).mapError .setup

namespace Config

/-- What an entry says, or a default where there is none. -/
def entryOr (c : Config) (key : String) (default : Value) : Value := (c.get? key).getD default

def layout (c : Config) : Record.Layout where
  columnFamily := c.entryOr "column_family" (.text "cf")
  rowKeyField := c.entryOr "row_key_field" (.text Record.defaultRowKeyField)
  timestampField := c.entryOr "timestamp_field" .null
  valueEncoding := .ofValue (c.entryOr "value_encoding" .null)
  rowKeyEncoding := .ofValue (c.entryOr "row_key_encoding" .null)

def column (name : String) : Column :=
  match Record.splitName? name with
  | none => ⟨some (Utf8.ofString name), none⟩
  | some (family, qualifier) => ⟨some (Utf8.ofString family), some (Utf8.ofString qualifier)⟩

def columnOf : Value → Except Mismatch Column
  | .text name => .ok (column name)
  | .bytes _ => .error .textPart
  | value => .error (.lacks value.typeName "partition")

def columns (c : Config) : Except Mismatch (List Column) := do
  (← (c.entryOr "columns" (.list [])).items).mapM columnOf

def isBlankByte (b : UInt8) : Bool := b = 0x20 || (0x09 ≤ b && b ≤ 0x0d)

/-- The filter expression that a value is. Byte strings are none, even if they spell one, unless
they are blank. -/
def expressionOf : Value → Except Mismatch (Option String)
  | .null => .ok none
  | .text s => .ok (some s)
  | .bytes b =>
    if b.all isBlankByte then .ok none else .error (.lacks (Value.whole 0).typeName "isspace")
  | value => .error (.lacks value.typeName "strip")

def filter (c : Config) : Except Mismatch (Option String) := expressionOf (c.entryOr "filter" .null)

end Config

/-- A service that is made for one publisher or subscriber, from the settings that a value holds. -/
def makeService (name : Value) (settings : Value) : Action Hub Supplier := do
  let label ← Action.ofExcept (name.shownText.mapError .ofInteger)
  let given ← Action.ofExcept ((GivenSettings.ofValue settings).mapError .mismatch)
  let service ← Hub.createService (label ++ "_client") given .gateway Filter.Table.default
  Hub.enable service
  return .owned service

/-- Who serves a publisher or a subscriber: a shared service, or what its configuration has. -/
def supplierFor (name : Value) (shared : Option ServiceId) (config : Config) :
    Action Hub Supplier :=
  match shared, config.entryOr "client_service" .null, config.entryOr "hbase_properties" .null with
  | some service, _, _ => pure (.shared service)
  | none, .null, .null => Action.fail (.setup .noService)
  | none, .null, settings => makeService name settings
  | none, value, _ => pure (.unfit value.typeName)

/-- A publisher to a table. -/
structure TablePublisher where
  publisher : Publisher
  table : TableSink

def TablePublisher.create (name address : Value) (shared : Option ServiceId) (config : Config) :
    Action Hub TablePublisher := do
  let table ← Action.ofExcept (parseTable address)
  let supplier ← supplierFor name shared config
  let publisher ← Action.ofExcept ((Publisher.create name address config).mapError .mismatch)
  let label ← Action.ofExcept (announce name address)
  return ⟨publisher, { publisher := label, table, layout := config.layout, supplier }⟩

structure TableSubscriber where
  subscriber : Subscriber
  feed : TableFeed

def checkFilter (supplier : Supplier) (config : Config) : Action Hub (Option String) :=
  supplier.work "scan_executor" do
    let filter ← Action.ofExcept (config.filter.mapError .mismatch)
    let _ ← Client.parseFilter filter
    return filter

def TableSubscriber.create (name address : Value) (shared : Option ServiceId) (config : Config) :
    Action Hub TableSubscriber := do
  let label ← Action.ofExcept (announce name address)
  let table ← Action.ofExcept (parseTable address)
  let columns ← Action.ofExcept (config.columns.mapError .mismatch)
  let supplier ← supplierFor name shared config
  let filter ← checkFilter supplier config
  let minTimestamp ← Action.ofExcept
    ((config.entryOr "min_timestamp" (.whole 0)).toInteger.mapError .number)
  return {
    subscriber := Subscriber.create name address config
    feed := {
      subscriber := label, table, columns, filter, supplier
      rowKeyField := config.entryOr "row_key_field" (.text Record.defaultRowKeyField)
      pollInterval := config.entryOr "poll_interval" (.whole 5)
      progress := ⟨minTimestamp, []⟩ } }

/-- The address that a configuration gives under a key. Only tables have addresses. -/
def addressOf (config : Config) (key : String) (absent : SetupError) : Except Fault Value := do
  let value := config.entryOr key .null
  if !value.isSet then throw (.setup absent)
  let text ← (Record.textToStart value).mapError .mismatch
  if isTableAddress text then return value else throw (.setup (.unknownScheme key text))

def TablePublisher.ofConfig (name : Value) (shared : Option ServiceId) (config : Config) :
    Action Hub TablePublisher := do
  Action.ofExcept ((checkName name).mapError .setup)
  let address ← Action.ofExcept (addressOf config "destination" .noDestination)
  create name address shared config

def TableSubscriber.ofConfig (name : Value) (shared : Option ServiceId) (config : Config) :
    Action Hub TableSubscriber := do
  Action.ofExcept ((checkName name).mapError .setup)
  let address ← Action.ofExcept (addressOf config "source" .noSource)
  create name address shared config

end WideColumn.Stream
