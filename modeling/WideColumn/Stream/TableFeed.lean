import WideColumn.Record.Row
import WideColumn.Stream.Progress
import WideColumn.Stream.Subscriber
import WideColumn.Stream.Supplier

/-!
Subscribing to a table. The table is polled by scans; every new row becomes a record, which waits
until it is asked for. When a poll finds nothing, or fails, the feed sleeps.
-/
namespace WideColumn.Stream

structure TableFeed where
  subscriber : String
  table : String
  rowKeyField : Value := .text Record.defaultRowKeyField
  columns : List Column := []
  filter : Option String := none
  pollInterval : Value := .whole 5
  supplier : Supplier
  progress : Progress := ⟨0, []⟩
  pending : List Record := []

namespace TableFeed

def request (f : TableFeed) : ScanRequest where
  table := f.table
  columns := f.columns
  minTimestamp := f.progress.minTimestamp

/-- The records of rows. -/
def recordsOf (f : TableFeed) (rows : List (Int × ScannedRow)) : Except Mismatch (List Record) :=
  rows.mapM fun row => Record.ofRow f.rowKeyField row.2.key row.2.cells

def receive (f : TableFeed) (rows : List (Int × ScannedRow)) (records : List Record) : TableFeed :=
  { f with progress := f.progress.noteAll rows, pending := f.pending ++ records }

def onHub {α : Type} (a : Action Hub α) : Action (TableFeed × Hub) α :=
  Action.onPart Prod.snd (fun hub s => (s.1, hub)) a

/-- Polls the table, and tells how many new rows there are. A poll that fails changes nothing. -/
def poll : Action (TableFeed × Hub) Nat := do
  let (f, _) ← Action.get
  let rows ← onHub (f.supplier.work "scan" (Client.scan f.request f.filter fun _ _ => .ok []))
  let found := f.progress.newRows rows
  let records ← Action.ofExcept ((f.recordsOf found).mapError .mismatch)
  .modify fun s => (s.1.receive found records, s.2)
  if !found.isEmpty then onHub (Hub.count (.received f.subscriber f.table) found.length)
  return found.length

def takePending (otherwise : Action (TableFeed × Hub) Fetched) :
    Action (TableFeed × Hub) Fetched := do
  let (f, _) ← Action.get
  match f.pending with
  | [] => otherwise
  | record :: pending =>
    .modify fun s => ({ s.1 with pending }, s.2)
    return .record (.dict record)

def sleep : Action (TableFeed × Hub) Fetched := do
  let (f, _) ← Action.get
  onHub (Hub.log (.slept f.pollInterval))
  return .slept f.pollInterval

/-- The next record. The table is polled when none is waiting. -/
def next : Action (TableFeed × Hub) Fetched :=
  takePending do
    let _ ← Action.attempt poll
    takePending sleep

/-- The feed as a source. A row is new at most once as long as the table does not change. -/
def source : Source (TableFeed × Hub) where
  next := next
  bound s := s.1.pending.length + s.2.store.rows.length
end TableFeed

inductive Prepared
  | fails (message : String)
  | gives (data : Value)

namespace Prepared

def fetch : Prepared → Except Fault Fetched
  | fails message => .error (.collaborator "RuntimeError" message)
  | gives .null => .ok .nothing
  | gives data => .ok (.record data)

def next : Action (List Prepared × Hub) Fetched := do
  let (items, _) ← Action.get
  match items with
  | [] => return .nothing
  | item :: rest =>
    .modify fun s => (rest, s.2)
    Action.ofExcept item.fetch

def source : Source (List Prepared × Hub) where
  next := next
  bound s := s.1.length

end Prepared
end WideColumn.Stream
