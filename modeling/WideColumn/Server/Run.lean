import WideColumn.Server.ModulePaths
import WideColumn.Service.Hub

/-!
A run of the server: it loads the properties, adds the directories that they name, makes the service
and enables it if its settings can be used, answers requests for pages, and shuts the service down
at the end.
-/
namespace WideColumn.Server

structure Binding where
  host : String
  port : Int
  debug : Bool
  deriving DecidableEq, Repr

inductive Ending
  | returned
  | interrupted
  | failed
  deriving DecidableEq, Repr

/-- What happens while the server runs: the paths that are asked for, and how it ends. -/
structure Visit where
  paths : List String := []
  ending : Ending := .returned

structure Started where
  service : ServiceId
  binding : Binding
  modulePaths : ModulePaths

/-- What a run comes to. The exit code is missing where the run ends by itself, and a fault that
nobody has dealt with may be left over. -/
structure Outcome where
  started : Option Started := none
  pages : List Page := []
  exitCode : Option Nat := none
  fault : Option Fault := none

/-- The variable that names the property file, and the file where it is not set. -/
def fileVariable : String := "HBASE_SERVICE_PROPERTIES"
def defaultFile : String := "config/application.properties"

def propertyFile (environment : Environment) : String :=
  (environment fileVariable).getD defaultFile

namespace Binding

def ofProperties (p : Properties) (environment : Environment) : Except Mismatch Binding := do
  return {
    host := (← p.get? environment "server.host").getD "0.0.0.0"
    port := (← p.getInteger? environment "server.port").getD 5003
    debug := (← p.getSwitch? environment "server.debug").getD false }

end Binding

def loadProperties : Action Hub Properties := do
  let h ← Action.get
  Action.ofExcept
    ((Properties.ofFiles h.files [propertyFile h.environment] ∅).mapError .load)

def found {α : Type} (result : Except Mismatch α) : Action Hub α :=
  Action.ofExcept (result.mapError .mismatch)

/-- Makes the service that properties describe, and enables it if its settings can be used. -/
def makeService (p : Properties) : Action Hub ServiceId := do
  let h ← Action.get
  let name := (← found (p.get? h.environment "service.name")).getD "hbase"
  let settings ← found (Hub.settingsOf p h.environment Hub.settingsStart)
  let id ← Hub.createService name ⟨settings, none⟩ .gateway Filter.Table.default
  let verdict ← Action.ofExcept ((Config.validate settings).mapError .ofInteger)
  if verdict.toBool then Hub.enable id
  return id

def setUp : Action Hub Started := do
  let p ← loadProperties
  let h ← Action.get
  let (_, modulePaths) ← found (ModulePaths.addNamed [] p h.files h.environment)
  let service ← makeService p
  let binding ← found (Binding.ofProperties p h.environment)
  return { service, binding, modulePaths }

/-- Answers requests for pages, one after the other. A request that cannot be answered ends the
serving, and then there are no pages at all. -/
def serve (id : ServiceId) : List String → Action Hub (Option (List Page))
  | [] => pure (some [])
  | path :: rest => do
    match ← Action.attempt (Hub.page (some id) path) with
    | .error _ => return none
    | .ok page => return (← serve id rest).map (page :: ·)

def Ending.exitCode : Ending → Option Nat
  | .failed => some 1
  | .returned | .interrupted => none

def logDirectory : String := "logs"

def makeLogDirectory : Action Hub Unit := do
  let h ← Action.get
  let files ← Action.ofExcept ((h.files.makeDirectory logDirectory).mapError .file)
  .modify fun h => { h with files }

/-- Runs the server. Without a directory for its log it does not even begin. The service is shut
down however serving ends; a fault of that takes the place of the exit code. -/
def run (visit : Visit) : Action Hub Outcome := do
  makeLogDirectory
  match ← Action.attempt setUp with
  | .error _ => return { exitCode := some 1 }
  | .ok started =>
    let served ← serve started.service visit.paths
    let pages := served.getD []
    match ← Action.attempt (Hub.onService started.service Client.shutdown) with
    | .ok () =>
      let exitCode := if served.isSome then visit.ending.exitCode else some 1
      return { started := some started, pages, exitCode }
    | .error fault => return { started := some started, pages, fault := some fault }

end WideColumn.Server
