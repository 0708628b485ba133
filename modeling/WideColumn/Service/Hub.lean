import WideColumn.Service.Health
import WideColumn.Service.Scan
import WideColumn.Service.Write

/-!
The hub: everything that the services of a process share. Services are known by their numbers, in
the order in which they were made.
-/
namespace WideColumn

structure Hub where
  files : Files := {}
  environment : Environment := fun _ => none
  store : Store := {}
  metrics : Metrics := {}
  services : List Service := []

abbrev ServiceId := Nat

namespace Hub

/-- Whether a number is the one of a service. -/
def service? (h : Hub) (id : ServiceId) : Option Service := h.services[id]?

def withClient (h : Hub) (id : ServiceId) (c : Client) : Hub :=
  { h with
    store := c.store
    metrics := c.metrics
    services := h.services.set id c.service }

/-- Lets a service work. A number that no service has leads to a service that is not enabled. -/
def onService {α : Type} (id : ServiceId) (a : Action Client α) : Action Hub α := fun h =>
  match h.services[id]? with
  | none => (.error (.notEnabled ""), h)
  | some service =>
    ((a ⟨service, h.store, h.metrics⟩).1, h.withClient id (a ⟨service, h.store, h.metrics⟩).2)

def addService (service : Service) : Action Hub ServiceId := fun h =>
  (.ok h.services.length, { h with services := h.services ++ [service] })

def createService (name : String) (given : GivenSettings) (backend : Backend)
    (filters : Filter.Table) : Action Hub ServiceId := do
  let service ← Action.ofExcept (Service.create name given backend filters)
  addService service

/-- The settings that properties give to a service: those under a prefix, without it. -/
def settingsOf (properties : Properties) (environment : Environment) (start : String) :
    Except Mismatch Settings :=
  (properties.withPrefix environment start).map (·.mapValues Value.ofText?)

def settingsStart : String := "hbase."

def enable (id : ServiceId) : Action Hub Unit := do
  let h ← Action.get
  onService id (Client.enable h.files)

def enableRacing (id : ServiceId) : Action Hub Unit := do
  let h ← Action.get
  onService id (Client.enableRacing h.files)

def count (s : Series) (n : Nat := 1) : Action Hub Unit :=
  .modify fun h => { h with metrics := h.metrics.add s n }

def log (e : Store.Event) : Action Hub Unit :=
  .modify fun h => { h with store := h.store.record e }

/-- The samples of all metrics, unless they cannot be collected. -/
def collect : Action Hub (List Metrics.Sample) := fun h =>
  match h.store.pass .metrics with
  | (some fault, store) => (.error fault, { h with store })
  | (none, store) => (.ok h.metrics.samples, { h with store })

/-- The page at a location, of a process with a service or without one. The metrics are collected
for their own page only. -/
def page (service : Option ServiceId) (location : String) : Action Hub Page := do
  let location ← Action.ofExcept ((Location.ofText location).mapError .location)
  let samples ←
    if Route.ofLocation? location = some .metrics then Action.attempt collect else pure (.ok [])
  let h ← Action.get
  return Page.ofLocation (service.bind h.service?) samples location

end Hub
end WideColumn
