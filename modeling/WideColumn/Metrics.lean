import WideColumn.OrderedMap
import WideColumn.Text.Integer

/-!
Metrics: counters, histograms and a gauge that all services of a process share. A series exists once
it has been touched, even if nothing was added to it.
-/
namespace WideColumn

/-- The counted series. Durations are only counted. -/
inductive Series
  | puts (table : String) (success : Bool)
  | putDuration (table : String)
  | rowsWritten (table : String)
  | cellsWritten (table : String)
  | scans (table : String) (success : Bool)
  | scanDuration (table : String)
  | rowsRead (table : String)
  | cellsRead (table : String)
  | published (publisher table : String)
  | received (subscriber table : String)
  | errors (kind component : String)
  deriving DecidableEq, Repr

/-- All metrics. The sizes of the batches put are kept by table, in order. -/
structure Metrics where
  counts : OrderedMap Series Nat := ∅
  batchRows : OrderedMap String (List Nat) := ∅
  connectionEnabled : Bool := false
  deriving DecidableEq, Repr

namespace Metrics

def count (m : Metrics) (s : Series) : Nat := (m.counts.get? s).getD 0

def batches (m : Metrics) (table : String) : List Nat := (m.batchRows.get? table).getD []

def add (m : Metrics) (s : Series) (n : Nat := 1) : Metrics :=
  { m with counts := m.counts.insert s (m.count s + n) }

def observeBatch (m : Metrics) (table : String) (rows : Nat) : Metrics :=
  { m with batchRows := m.batchRows.insert table (m.batches table ++ [rows]) }

structure Sample where
  name : String
  labels : List (String × String)
  value : Nat
  deriving DecidableEq, Repr

def labelsBefore : List (String × String) → List (String × String) → Bool
  | _, [] => false
  | [], _ :: _ => true
  | (k, v) :: rest, (k', v') :: rest' =>
    if k = k' then (if v = v' then labelsBefore rest rest' else v < v') else k < k'

def Sample.before (a b : Sample) : Bool :=
  if a.name = b.name then labelsBefore a.labels b.labels else a.name < b.name

def nameStart : String := "hbase_service_"

def status (success : Bool) : String := if success then "success" else "error"

def describe : Series → String × List (String × String)
  | .puts table success => ("puts_total", [("status", status success), ("table", table)])
  | .putDuration table => ("put_duration_seconds_count", [("table", table)])
  | .rowsWritten table => ("rows_written_total", [("table", table)])
  | .cellsWritten table => ("cells_written_total", [("table", table)])
  | .scans table success => ("scans_total", [("status", status success), ("table", table)])
  | .scanDuration table => ("scan_duration_seconds_count", [("table", table)])
  | .rowsRead table => ("rows_read_total", [("table", table)])
  | .cellsRead table => ("cells_read_total", [("table", table)])
  | .published publisher table =>
    ("messages_published_total", [("publisher", publisher), ("table", table)])
  | .received subscriber table =>
    ("messages_received_total", [("subscriber", subscriber), ("table", table)])
  | .errors kind component =>
    ("errors_total", [("component", component), ("error_type", kind)])

def bucketBounds : List Nat := [1, 5, 10, 25, 50, 100, 250, 500, 1000, 5000]

/-- The samples of the batch sizes of one table. Buckets are cumulative. -/
def batchSamples (table : String) (sizes : List Nat) : List Sample :=
  let bucket := fun (bound : String) (n : Nat) =>
    Sample.mk (nameStart ++ "put_batch_rows_bucket") [("le", bound), ("table", table)] n
  (bucketBounds.map fun b =>
    bucket (String.ofList (Text.natural b) ++ ".0") (sizes.filter (· ≤ b)).length) ++
  [bucket "+Inf" sizes.length,
   ⟨nameStart ++ "put_batch_rows_count", [("table", table)], sizes.length⟩,
   ⟨nameStart ++ "put_batch_rows_sum", [("table", table)], sizes.foldl (· + ·) 0⟩]

def samples (m : Metrics) : List Sample :=
  let counted := m.counts.entries.map fun e =>
    Sample.mk (nameStart ++ (describe e.1).1) (describe e.1).2 e.2
  let batches := m.batchRows.entries.flatMap fun e => batchSamples e.1 e.2
  let gauge :=
    Sample.mk (nameStart ++ "connection_enabled") [] (if m.connectionEnabled then 1 else 0)
  (gauge :: counted ++ batches).mergeSort fun a b => !b.before a

end Metrics
end WideColumn
