import WideColumn.Session.Basic

/-!
The steps of a session: everything that can be asked of a service, a publisher or a subscriber, and
what is planned for the store. A step that fails leaves what it has done.
-/
namespace WideColumn

inductive SettingsSource
  | given (settings : Settings)
  | properties (entries : List (String × Value)) (start : String)

/-- Who makes the connections of a publisher or a subscriber, and where its table is. With no
address given, the configuration has it. -/
structure StreamOrder where
  name : Value
  service : Option String
  config : Stream.Config
  address : Option Value

/-- A step. Members and cursors are named first. -/
inductive Step
  | stage (rows : List StoredRow)
  | planFault (point : Store.Point) (planned : Option Planned)
  | createService (member name : String) (settings : SettingsSource) (backend : Backend)
      (filters : Filter.Table)
  | validate (member : String)
  | enable (member : String) (racing : Bool)
  | isEnabled (member : String)
  | shutdown (member : String)
  | put (member table : String) (requests : List PutRequest)
  | putRow (member table : String) (row : Option Bytes) (columns : List CellWrite)
      (timestamp : Option Int)
  | delete (member table : String) (row : Option Bytes)
  | tableName (member table : String)
  | scan (member : String) (request : ScanRequest) (filter : Option String)
      (refusal : Option (Nat × Fault))
  | openCursor (cursor member : String) (request : ScanRequest) (filter : Option String)
  | nextRow (cursor : String)
  | closeCursor (cursor : String)
  | details (member : String)
  | metrics
  | page (member : Option String) (path : String)
  | createPublisher (member : String) (order : StreamOrder)
  | createRecorder (member : String) (name address : Value) (config : Stream.Config)
  | publish (member : String) (data : Value)
  | flush (member : String)
  | tick (member : String)
  | createSubscriber (member : String) (order : StreamOrder)
  | createPrepared (member : String) (name source : Value) (config : Stream.Config)
      (items : List Stream.Prepared)
  | poll (member : String)
  | fetch (member : String)
  | take (member : String) (seconds : Value)
  | queueSize (member : String)
  | suspend (member : String)
  | resume (member : String)
  | start (member : String)
  | goOn (member : String)
  | stop (member : String)

inductive Reply
  | nothing
  | settings (entries : List (String × Value))
  | verdict (invalidReason : Option String)
  | flag (value : Bool)
  | text (text : String)
  | number (value : Nat)
  | row (row : Option ScannedRow)
  | fields (entries : List (String × Value))
  | samples (samples : List Metrics.Sample)
  | page (page : Page)
  | publisher (table : String) (buffered : Bool)
  | flusher (flusher : Stream.Flusher)
  | subscriber (feed : Stream.TableFeed)
  | polled (found : Nat) (feed : Stream.TableFeed)
  | record (data : Option Value)
  | worker (worker : Stream.Worker)
  | blocked

namespace Reply

/-- What a call leads to that may wait for ever. -/
def ofCall {α : Type} (reply : α → Reply) : Stream.Call α → Reply
  | .returned result => reply result
  | .blocked => blocked

end Reply

namespace Session

def sortedSettings (settings : Settings) : List (String × Value) :=
  settings.entries.mergeSort fun a b => !(b.1 < a.1)

def settingsFrom (environment : Environment) : SettingsSource → Except Mismatch Settings
  | .given settings => .ok settings
  | .properties entries start =>
    Hub.settingsOf (entries.foldl (fun p e => p.set e.1 e.2) default) environment start

def createService (member name : String) (source : SettingsSource) (backend : Backend)
    (filters : Filter.Table) : Action Session Reply := do
  let s ← Action.get
  let settings ← Action.ofExcept ((settingsFrom s.hub.environment source).mapError .mismatch)
  let id ← onHub (Hub.createService name ⟨settings, none⟩ backend filters)
  bindName member (.service id)
  return .settings (sortedSettings settings)

/-- A handler that accepts rows, up to one that it refuses. -/
def acceptRows (refusal : Option (Nat × Fault)) : Client.RowHandler := fun index row =>
  match refusal with
  | some (refused, fault) => if index = refused then .error fault else .ok [.rowHandled row]
  | none => .ok [.rowHandled row]

/-- Opens a cursor under a name. A cursor that had the name before is dropped, and nobody learns
whether that failed. -/
def openCursor (name member : String) (request : ScanRequest) (filter : Option String) :
    Action Session Unit := do
  let id ← findService member
  let cursor ← onHub (Hub.onService id (Client.openCursor request filter))
  let s ← Action.get
  bindCursor name id cursor
  match s.cursors.get? name with
  | none => return
  | some (id, old) =>
    let _ ← Action.attempt (onHub (Hub.onService id (Client.closeCursor old)))
    return

def nextRow (name : String) : Action Session (Option ScannedRow) := do
  let (id, cursor) ← findCursor name
  bindCursor name id .finished
  let (row, cursor) ← onHub (Hub.onService id (Client.next cursor))
  bindCursor name id cursor
  return row

def closeCursor (name : String) : Action Session Unit := do
  let (id, cursor) ← findCursor name
  bindCursor name id .finished
  onHub (Hub.onService id (Client.closeCursor cursor))

def details (member : String) : Action Session (List (String × Value)) := do
  let s ← Action.get
  match ← find member with
  | .service id =>
    match s.hub.service? id with
    | some service => return (← Action.ofExcept service.details).fields
    | none => Action.fail (.unknown member)
  | .publisher p => return p.publisher.fields
  | .recorder p _ => return p.fields
  | .subscriber t => return t.subscriber.fields
  | .prepared p _ => return p.fields

def sharedService : Option String → Action Session (Option ServiceId)
  | none => pure none
  | some member => do return some (← findService member)

def createPublisher (member : String) (order : StreamOrder) : Action Session Reply := do
  let service ← sharedService order.service
  let p ← onHub
    (match order.address with
      | some address =>
        Stream.TablePublisher.create order.name address service order.config
      | none => Stream.TablePublisher.ofConfig order.name service order.config)
  bindName member (.publisher p)
  return .publisher p.table.table p.publisher.isBuffered

def createRecorder (member : String) (name address : Value) (config : Stream.Config) :
    Action Session Reply := do
  let p ← Action.ofExcept ((Stream.Publisher.create name address config).mapError .mismatch)
  let _ ← Action.ofExcept (Stream.announce name address)
  let refused :=
    match config.get? "fail_on" with
    | some .null => none
    | refused => refused
  bindName member (.recorder p refused)
  return .nothing

def createSubscriber (member : String) (order : StreamOrder) : Action Session Reply := do
  let service ← sharedService order.service
  let t ← onHub
    (match order.address with
      | some address =>
        Stream.TableSubscriber.create order.name address service order.config
      | none => Stream.TableSubscriber.ofConfig order.name service order.config)
  bindName member (.subscriber t)
  return .subscriber t.feed

def fetched : Stream.Fetched → Option Value
  | .record data => some data
  | .nothing | .slept _ => none

/-- Stops a publisher or a subscriber. A service of its own is shut down. -/
def stop (member : String) : Action Session Unit := do
  match ← find member with
  | .publisher p =>
    onPublisher member Stream.Publisher.stop
    onHub p.table.supplier.release
  | .recorder .. => onPublisher member Stream.Publisher.stop
  | .subscriber t =>
    updateSubscriber member Stream.Subscriber.stop
    onHub t.feed.supplier.release
  | .prepared .. => updateSubscriber member Stream.Subscriber.stop
  | .service _ => Action.fail (.unknown member)

/-- Where the worker of a subscriber waits, after it has run. -/
def workerAfter (member : String)
    (a : (σ : Type) → Stream.Source σ → Action (Stream.Subscriber × σ) Unit) :
    Action Session Reply := do
  onSubscriber member a
  return .worker (← subscriber member).worker

def isEnabled (member : String) : Action Session Reply :=
  onService member do return .flag (← Action.get).service.isEnabled

def step : Step → Action Session Reply
  | .stage rows => do
    .modify fun s => { s with hub := { s.hub with store := { s.hub.store with rows } } }
    return .nothing
  | .planFault point planned => do
    .modify fun s => { s with hub := { s.hub with store := s.hub.store.planFault point planned } }
    return .nothing
  | .createService member name settings backend filters =>
    createService member name settings backend filters
  | .validate member =>
    onService member do
      return .verdict (← Action.ofExcept (← Action.get).service.validate).reason?
  | .enable member racing => do
    let id ← findService member
    onHub (if racing then Hub.enableRacing id else Hub.enable id)
    isEnabled member
  | .isEnabled member => isEnabled member
  | .shutdown member => do
    onService member Client.shutdown
    isEnabled member
  | .put member table requests => do
    onService member (Client.put table requests)
    return .nothing
  | .putRow member table row columns timestamp => do
    onService member (Client.putRow table row columns timestamp)
    return .nothing
  | .delete member table row => do
    onService member (Client.delete table row)
    return .nothing
  | .tableName member table => do return .text (← onService member (Client.tableName table))
  | .scan member request filter refusal => do
    let rows ← onService member (Client.scan request filter (acceptRows refusal))
    return .number rows.length
  | .openCursor cursor member request filter => do
    openCursor cursor member request filter
    return .nothing
  | .nextRow cursor => do return .row (← nextRow cursor)
  | .closeCursor cursor => do
    closeCursor cursor
    return .nothing
  | .details member => do return .fields (← details member)
  | .metrics => do return .samples (← onHub Hub.collect)
  | .page member path => do
    let service ← sharedService member
    return .page (← onHub (Hub.page service path))
  | .createPublisher member order => createPublisher member order
  | .createRecorder member name address config => createRecorder member name address config
  | .publish member data => do
    return Reply.ofCall (fun _ => .nothing) (← onPublisher member (Stream.Publisher.publish · data))
  | .flush member => do
    onPublisher member Stream.Publisher.flush
    return .nothing
  | .tick member => do return .flusher (← onPublisher member Stream.Publisher.tick)
  | .createSubscriber member order => createSubscriber member order
  | .createPrepared member name source config items => do
    let _ ← Action.ofExcept (Stream.announce name source)
    bindName member (.prepared (Stream.Subscriber.create name source config) items)
    return .nothing
  | .poll member =>
    onFeed member do
      let found ← Stream.TableFeed.poll
      return .polled found (← Action.get).1
  | .fetch member =>
    onSubscriber member fun _ source => do
      return .record (fetched (← Stream.Subscriber.fetch source))
  | .take member seconds => do
    let patience ← Action.ofExcept (Stream.Subscriber.Patience.ofSeconds seconds)
    let call ← onSubscriber member fun _ _ => fun s =>
      (.ok (s.1.take patience).1, (s.1.take patience).2, s.2)
    return Reply.ofCall .record call
  | .queueSize member => do return .number (← subscriber member).queue.length
  | .suspend member => do
    updateSubscriber member Stream.Subscriber.suspend
    return .nothing
  | .resume member => do
    updateSubscriber member Stream.Subscriber.resume
    return .nothing
  | .start member => workerAfter member fun _ source => Stream.Subscriber.start source
  | .goOn member => workerAfter member fun _ source => Stream.Subscriber.goOn source
  | .stop member => do
    stop member
    return .nothing

/-- The outcome of a step, with the events that it has led to, and the session after it. -/
def answer (s : Session) (next : Step) : (Except Fault Reply × List Store.Event) × Session :=
  let cleared := { s with hub := { s.hub with store := { s.hub.store with log := [] } } }
  let (outcome, after) := step next cleared
  ((outcome, after.hub.store.log), after)

end Session
end WideColumn
