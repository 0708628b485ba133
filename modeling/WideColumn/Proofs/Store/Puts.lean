import WideColumn.Proofs.Write.Runs
import WideColumn.Service.Basic

/-! What calls and logs tell of the cells that are written. The table puts among calls have the
cells themselves; a log of a gateway has batches, of which those that are sent count. Either way
every row can be read back. -/
namespace WideColumn

open Store (Call Event)

namespace Store

/-- A cell as a gateway takes it, with the timestamp of its batch. -/
structure SentCell where
  table : String
  row : Option Bytes
  column : Bytes
  value : Option Bytes
  timestamp : Option Int
  deriving DecidableEq, Repr

/-- The cells of the batches that are sent, where a batch has been opened for a table with a
timestamp and filled with cells before. A batch that is dropped has none. -/
def sentFrom (opened : String × Option Int) (filled : List SentCell) : List Event → List SentCell
  | [] => []
  | .batchOpened table timestamp :: rest => sentFrom (table, timestamp) [] rest
  | .batchFilled row column value :: rest =>
    sentFrom opened (filled ++ [⟨opened.1, row, column, value, opened.2⟩]) rest
  | .batchSent :: rest => filled ++ sentFrom opened [] rest
  | .batchDropped _ :: rest => sentFrom opened [] rest
  | _ :: rest => sentFrom opened filled rest

/-- The cells of a row of a table that a log has sent. -/
def sent (table : String) (row : Option Bytes) (log : List Event) : List SentCell :=
  (sentFrom ("", none) [] log).filter fun c => c.table = table ∧ c.row = row

/-- The cells that a call puts into a row of a table. -/
def Call.written (table : String) (row : Option Bytes) : Call → List CellWrite
  | put _ name mutations => if name = table then Mutation.cellsOf row mutations else []
  | _ => []

/-- The cells that calls put into a row of a table. -/
def written (table : String) (row : Option Bytes) (calls : List Call) : List CellWrite :=
  calls.flatMap (Call.written table row)

end Store

/-- The name of the column of a cell that has one. -/
def CellWrite.name (c : CellWrite) : Bytes := Column.join (c.family.getD []) (c.qualifier.getD [])

/-- A cell as it is sent to a table. -/
def RowCell.sent (table : String) (c : RowCell) : Store.SentCell :=
  ⟨table, c.row, c.cell.name, c.cell.value, c.cell.timestamp⟩

/-- What is logged when a run of cells is sent. -/
def Run.events (table : String) (run : Run) : List Event :=
  .batchOpened table run.timestamp ::
    run.cells.map (fun c => Event.batchFilled c.row c.cell.name c.cell.value) ++ [.batchSent]

namespace Store

theorem sentFrom_filled (opened : String × Option Int) (filled : List SentCell)
    (cells : List RowCell) (rest : List Event) :
    sentFrom opened filled
        (cells.map (fun c => Event.batchFilled c.row c.cell.name c.cell.value) ++ rest) =
      sentFrom opened
        (filled ++ cells.map fun c => ⟨opened.1, c.row, c.cell.name, c.cell.value, opened.2⟩)
        rest := by
  induction cells generalizing filled with
  | nil => rw [List.map_nil, List.map_nil, List.append_nil, List.nil_append]
  | cons c cells ih =>
    rw [List.map_cons, List.cons_append, sentFrom, ih, List.map_cons, List.append_assoc]
    rfl

/-- A run is sent whole, with the timestamps of its cells. -/
theorem sentFrom_run (table : String) {run : Run}
    (uniform : ∀ c ∈ run.cells, c.cell.timestamp = run.timestamp) (opened : String × Option Int)
    (rest : List Event) : sentFrom opened [] (run.events table ++ rest) =
      run.cells.map (RowCell.sent table) ++ sentFrom (table, run.timestamp) [] rest := by
  rw [Run.events, List.append_assoc, List.cons_append, sentFrom, sentFrom_filled,
    List.singleton_append, sentFrom, List.nil_append]
  congr 1
  refine List.map_congr_left fun c member => ?_
  rw [RowCell.sent, uniform c member]

theorem sentFrom_runs (table : String) {runs : List Run}
    (uniform : ∀ run ∈ runs, ∀ c ∈ run.cells, c.cell.timestamp = run.timestamp)
    (opened : String × Option Int) (rest : List Event) : ∃ opened',
      sentFrom opened [] (runs.flatMap (Run.events table) ++ rest) =
        (runs.flatMap (·.cells)).map (RowCell.sent table) ++ sentFrom opened' [] rest := by
  induction runs generalizing opened with
  | nil => exact ⟨opened, rfl⟩
  | cons run runs ih =>
    obtain ⟨first, others⟩ := List.forall_mem_cons.mp uniform
    obtain ⟨opened', later⟩ := ih others (table, run.timestamp)
    refine ⟨opened', ?_⟩
    rw [List.flatMap_cons, List.append_assoc, sentFrom_run table first, later, List.flatMap_cons,
      List.map_append, List.append_assoc]

/-- What is logged when the mutations of a table are put. -/
def putEvents (backend : Backend) (table : String) (mutations : List Mutation) : List Event :=
  match backend with
  | .direct => [.wrote table mutations]
  | .gateway => (Run.ofMutations mutations).flatMap (Run.events table)

/-- What is called when the mutations of a table are put. -/
def putCalls (connection : Connection) (table : String) (mutations : List Mutation) : List Call :=
  [.lookedUp connection.number table, .put connection.number table mutations]

theorem written_putCalls (connection : Connection) (table : String) (row : Option Bytes)
    (puts : List (List Mutation)) : written table row (puts.flatMap (putCalls connection table)) =
      puts.flatMap (Mutation.cellsOf row) := by
  rw [written, List.flatMap_assoc]
  refine List.flatMap_congr fun mutations _ => ?_
  simp [putCalls, Call.written]

/-- A gateway is sent the cells that the table puts have. -/
theorem sent_putEvents (table : String) (row : Option Bytes) (puts : List (List Mutation)) :
    sent table row (puts.flatMap (putEvents .gateway table)) =
      (puts.flatMap (Mutation.cellsOf row)).map fun c => RowCell.sent table ⟨row, c⟩ := by
  have uniform : ∀ run ∈ puts.flatMap Run.ofMutations, ∀ c ∈ run.cells,
      c.cell.timestamp = run.timestamp := by
    intro run member
    obtain ⟨mutations, -, member⟩ := List.mem_flatMap.mp member
    exact (Run.split_cut _).uniform run member
  obtain ⟨opened, read⟩ := sentFrom_runs table uniform ("", none) []
  have cells : (puts.flatMap Run.ofMutations).flatMap (·.cells) = puts.flatMap Run.rowCells := by
    rw [List.flatMap_assoc]
    exact List.flatMap_congr fun mutations _ => (Run.split_cut _).whole
  have events : puts.flatMap (putEvents .gateway table) =
      (puts.flatMap Run.ofMutations).flatMap (Run.events table) ++ [] := by
    rw [List.append_nil, List.flatMap_assoc]
    rfl
  have ofRow : (puts.flatMap Run.rowCells).filter (·.row = row) =
      (puts.flatMap (Mutation.cellsOf row)).map (RowCell.mk row) := by
    rw [List.filter_flatMap, List.map_flatMap]
    exact List.flatMap_congr fun mutations _ => Run.rowCells_row mutations row
  rw [sent, events, read, cells, sentFrom, List.append_nil, List.filter_map]
  simp only [Function.comp_def, RowCell.sent, true_and]
  rw [ofRow, List.map_map]
  rfl

/-- What is written without a gateway opens no batch. -/
theorem sent_putEvents_direct (table : String) (row : Option Bytes)
    (puts : List (List Mutation)) :
    sent table row (puts.flatMap (putEvents .direct table)) = [] := by
  have none : sentFrom ("", none) [] (puts.flatMap (putEvents .direct table)) = [] := by
    induction puts with
    | nil => rfl
    | cons mutations rest ih => exact ih
  rw [sent, none, List.filter_nil]

end Store
end WideColumn
