import WideColumn.Service.Basic
import WideColumn.Location.Basic

/-!
Health: what a service answers to probes. The pages are for load balancers and for collecting
metrics. A process without a service is healthy and ready.
-/
namespace WideColumn

inductive Content
  | fields (entries : List (String × Value))
  | samples (samples : List Metrics.Sample)
  | text (text : String)
  | nothing

structure Page where
  status : Nat
  content : Content

namespace Page

def ok (entries : List (String × Value)) : Page := ⟨200, .fields entries⟩

def probe (usable : Bool) (entries : List (String × Value)) : Page :=
  ⟨if usable then 200 else 503, .fields entries⟩

end Page

def Value.ofText? : Option String → Value
  | none => .null
  | some s => .text s

def Value.ofFields (entries : List (String × Value)) : Value :=
  .dict (entries.map fun e => (.text e.1, e.2))

namespace Service.Details

def isHealthy (d : Details) : Bool := d.isValid && d.enabled

def healthWord (healthy : Bool) : Value := .text (if healthy then "healthy" else "unhealthy")

/-- The details by name. Of the time at which the service was enabled they tell whether there is
one. -/
def fields (d : Details) : List (String × Value) :=
  [("name", .text d.name), ("enabled", .flag d.enabled), ("enabled_at", .flag d.wasEnabled),
   ("valid", .flag d.isValid), ("validation_reason", .ofText? d.invalidReason),
   ("put_count", .whole d.putCount), ("scan_count", .whole d.scanCount)]

def health (d : Details) : Value :=
  .ofFields [("status", healthWord d.isHealthy), ("enabled", .flag d.enabled),
    ("valid", .flag d.isValid), ("reason", .ofText? d.invalidReason)]

end Service.Details

inductive Route
  | metrics
  | health
  | live
  | ready
  | details
  deriving DecidableEq, Repr

namespace Route

def path : Route → String
  | metrics => "/metrics"
  | health => "/health"
  | live => "/health/live"
  | ready => "/health/ready"
  | details => "/api/hbase"

def all : List Route := [metrics, health, live, ready, details]

def ofPath? (path : List Char) : Option Route := all.find? fun route => route.path.toList = path

/-- Whether a path is the one of a file that goes with the pages. There are no such files. -/
def isFile (path : List Char) : Bool :=
  let start := "/static/".toList
  start.isPrefixOf path && (path.drop start.length).head?.any (· ≠ '/')

def isKnown (path : List Char) : Bool := (ofPath? path).isSome || isFile path

def mergeSlashes : List Char → List Char
  | '/' :: '/' :: rest => mergeSlashes ('/' :: rest)
  | c :: rest => c :: mergeSlashes rest
  | [] => []

def ofLocation? (l : Location) : Option Route :=
  if l.isLasting || !l.isNamed then none else ofPath? l.path

/-- The status where there is no page at a location: its host has no proper name, or the page is
asked for over a lasting connection, is at another path, or is missing. -/
def missingStatus (l : Location) : Nat :=
  let isMerged := isKnown (mergeSlashes l.path)
  if !l.isNamed then 400
  else if isKnown l.path then (if l.isLasting then 400 else 404)
  else if isMerged then (if l.isLasting then 400 else 308)
  else 404

end Route

namespace Page

/-- The overall health: healthy unless there is a service that is not. -/
def ofHealth (service : Option Service.Details) : Page :=
  let healthy := service.all (·.isHealthy)
  probe healthy
    [("status", Service.Details.healthWord healthy),
     ("components", .ofFields (service.toList.map fun d => ("hbase", d.health)))]

def ofReadiness (service : Option Service) : Page :=
  let ready := service.all (·.isEnabled)
  probe ready [("status", .text (if ready then "ready" else "not_ready"))]

def ofDetails : Option Service.Details → Page
  | none => ⟨404, .fields [("error", .text "No HBase client service configured")]⟩
  | some d => ok d.fields

def ofSamples : Except Fault (List Metrics.Sample) → Page
  | .ok samples => ⟨200, .samples samples⟩
  | .error e => ⟨500, .text ("# Error generating metrics: " ++ e.message ++ "\n")⟩

/-- The page that the details of a service make. A service whose details cannot be told has none. -/
def ofService (page : Option Service.Details → Page) (service : Option Service) : Page :=
  match service.mapM Service.details with
  | .ok details => page details
  | .error _ => ⟨500, .nothing⟩

def ofLocation (service : Option Service)
    (samples : Except Fault (List Metrics.Sample)) (location : Location) : Page :=
  match Route.ofLocation? location with
  | none => ⟨Route.missingStatus location, .nothing⟩
  | some .metrics => ofSamples samples
  | some .health => ofService ofHealth service
  | some .live => ok [("status", .text "alive")]
  | some .ready => ofReadiness service
  | some .details => ofService ofDetails service

end Page
end WideColumn
