import WideColumn.Config.Gateway
import WideColumn.Filter.Signature
import WideColumn.Metrics
import WideColumn.Store.Basic

/-!
The client service: it validates its settings, holds one connection to the store and counts what is
done through it.
-/
namespace WideColumn

inductive Backend
  | direct
  | gateway
  deriving DecidableEq, Repr

structure Connection where
  number : Nat
  backend : Backend
  deriving DecidableEq, Repr

/-- A client service. A key of its settings that is no text is in the way when it connects. -/
structure Service where
  name : String
  settings : Settings
  backend : Backend
  filters : Filter.Table := Filter.Table.default
  strayKey : Option Value := none
  connection : Option Connection := none
  wasEnabled : Bool := false
  putCount : Nat := 0
  scanCount : Nat := 0

structure Client where
  service : Service
  store : Store
  metrics : Metrics

namespace Service

/-- The settings that name the components of a gateway service, and what they are to be. -/
def componentSettings : List (String × String) :=
  [("connection.factory", "hbase_service.client.connection.ConnectionFactory"),
   ("scan.iterator.factory", "hbase_service.client.connection.ScanIteratorFactory")]

/-- Looks for the component that a setting names, if it names one. -/
def checkComponent (settings : Settings) (s : String × String) : Except Fault Unit :=
  match settings.get? s.1 with
  | none => .ok ()
  | some path =>
    if !path.isSet then .ok ()
    else
      match path with
      | .text path => ((Component.make path s.2).map fun _ => ()).mapError .component
      | .bytes _ => .error (.mismatch .textPart)
      | path => .error (.mismatch (.lacks path.typeName "rpartition"))

/-- A service with these settings. The components that the settings name have to exist where the
service makes its own. -/
def create (name : String) (given : GivenSettings) (backend : Backend) (filters : Filter.Table) :
    Except Fault Service := do
  if backend = .gateway then componentSettings.forM (checkComponent given.named)
  return { name, settings := given.named, strayKey := given.strayKey, backend, filters }

def isEnabled (s : Service) : Bool := s.connection.isSome

structure Details where
  name : String
  enabled : Bool
  wasEnabled : Bool
  invalidReason : Option String
  putCount : Nat
  scanCount : Nat
  deriving DecidableEq, Repr

def Details.isValid (d : Details) : Bool := d.invalidReason.isNone

/-- What validation says of the settings, which takes their texts. -/
def validate (s : Service) : Except Fault Config.Verdict :=
  (Config.validate s.settings).mapError .ofInteger

def details (s : Service) : Except Fault Details :=
  s.validate.map fun verdict =>
    { name := s.name
      enabled := s.isEnabled
      wasEnabled := s.wasEnabled
      invalidReason := verdict.reason?
      putCount := s.putCount
      scanCount := s.scanCount }

end Service

namespace Client

open Store (Call Event Point)

def log (e : Event) : Action Client Unit := .modify fun c => { c with store := c.store.record e }

/-- Notes a call, with the connection that the service has. -/
def note (call : Call) : Action Client Unit :=
  .modify fun c => { c with store := c.store.note ⟨call, c.service.connection.map (·.number)⟩ }

/-- Notes a fault that has occurred. -/
def meet (incident : Store.Incident) : Action Client Unit :=
  .modify fun c => { c with store := c.store.meet incident }

def pass (point : Point) : Action Client Unit := fun c =>
  match c.store.pass point with
  | (none, store) => (.ok (), { c with store })
  | (some fault, store) => (.error fault, { c with store })

def count (s : Series) (n : Nat := 1) : Action Client Unit :=
  .modify fun c => { c with metrics := c.metrics.add s n }

def update (f : Service → Service) : Action Client Unit :=
  .modify fun c => { c with service := f c.service }

def setGauge (enabled : Bool) : Action Client Unit :=
  .modify fun c => { c with metrics := { c.metrics with connectionEnabled := enabled } }

def nextConnection : Action Client Nat := fun c =>
  let number := c.store.connections + 1
  (.ok number, { c with store := { c.store with connections := number } })

def gatewayAddress (files : Files) : Action Client Store.GatewayAddress := do
  let c ← Action.get
  let site ← Action.ofExcept ((Config.buildSite files c.service.settings).mapError .confFile)
  if let some key := c.service.strayKey then Action.fail (.mismatch (Config.keyMismatch key))
  Action.ofExcept ((Config.gatewayAddress site).mapError fun e => .number (.text e))

def openConnection (files : Files) : Action Client Connection := do
  let c ← Action.get
  match c.service.backend with
  | .direct =>
    let number ← nextConnection
    log (.connected number)
    pass .connect
    return ⟨number, .direct⟩
  | .gateway =>
    let address ← gatewayAddress files
    let number ← nextConnection
    log (.gatewayMade number address)
    log (.gatewayOpened number)
    pass .connect
    return ⟨number, .gateway⟩

def closeConnection (connection : Connection) : Action Client Unit := do
  note (.disconnected connection.number)
  log (.closed connection.number)
  pass .close

/-- Makes a connection the one of the service; if the service has one by now, the new one is
surplus and is closed. -/
def publish (connection : Connection) : Action Client Unit := do
  let c ← Action.get
  if c.service.isEnabled then closeConnection connection
  else
    update fun s => { s with connection := some connection, wasEnabled := true }
    setGauge true

/-- Has a connection made, where `meanwhile` happens after it has been opened and before it is handed
over. -/
def connect (files : Files) (meanwhile : Action Client Unit) : Action Client Connection := do
  let connection ← openConnection files
  meanwhile
  note (.connected connection.number)
  return connection

/-- Enables the service, where `meanwhile` happens after the connection has been opened and before
it is the one of the service. -/
def enableWith (files : Files) (meanwhile : Action Client Unit) : Action Client Unit := do
  let c ← Action.get
  if c.service.isEnabled then return
  match c.service.validate with
  | .error e => Action.fail e
  | .ok (.error invalid) => Action.fail (.invalidConfiguration invalid.reason)
  | .ok (.ok ()) =>
    match ← Action.attempt (connect files meanwhile) with
    | .ok connection => publish connection
    | .error e =>
      if e.isService then Action.fail e
      else
        count (.errors e.kind "connection")
        Action.fail (.store .connect e)

/-- Validates the settings and opens the connection, unless there is one. -/
def enable (files : Files) : Action Client Unit := enableWith files (pure ())

/-- Enables the service while the same is done a second time. -/
def enableRacing (files : Files) : Action Client Unit := enableWith files (enable files)

/-- Closes the connection, if there is one. Whatever happens, the service has none afterwards. -/
def shutdown : Action Client Unit := do
  let c ← Action.get
  match c.service.connection with
  | none => return
  | some connection =>
    update fun s => { s with connection := none }
    let closed ← Action.attempt (closeConnection connection)
    setGauge false
    match closed with
    | .ok () => return
    | .error e => Action.fail (.store .close e)

def requireConnection : Action Client Connection := do
  let c ← Action.get
  match c.service.connection with
  | some connection => return connection
  | none => Action.fail (.notEnabled c.service.name)

def lookUp (connection : Connection) (table : String) : Action Client Unit := do
  note (.lookedUp connection.number table)
  pass .table

end Client
end WideColumn
