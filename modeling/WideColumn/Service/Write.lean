import WideColumn.Service.Basic
import WideColumn.Write.Runs

/-!
Writing through a service. A put goes to the store as one call for each table; through a gateway the
cells go out as runs of equal timestamps.
-/
namespace WideColumn.Client

def columnName (cell : CellWrite) : Except Mismatch Bytes :=
  let null := Value.null.typeName
  let bytes := (Value.bytes []).typeName
  match cell.family, cell.qualifier with
  | none, _ => .error (.notAdded null bytes)
  | some _, none => .error (.notAppended bytes null)
  | some family, some qualifier => .ok (Column.join family qualifier)

def fillBatch : List RowCell → Action Client Unit
  | [] => pure ()
  | c :: rest => do
    let column ← Action.ofExcept ((columnName c.cell).mapError .mismatch)
    log (.batchFilled c.row column c.cell.value)
    pass .batchPut
    fillBatch rest

/-- Sends one run of cells as a batch. A batch that cannot be filled is dropped. -/
def sendRun (table : String) (run : Run) : Action Client Unit := do
  log (.batchOpened table run.timestamp)
  pass .batch
  match ← Action.attempt (fillBatch run.cells) with
  | .ok () =>
    log .batchSent
    pass .batchSend
  | .error e =>
    log (.batchDropped e.kind)
    Action.fail e

def sendRuns (table : String) : List Run → Action Client Unit
  | [] => pure ()
  | run :: rest => do
    sendRun table run
    sendRuns table rest

def writeTable (connection : Connection) (table : String) (mutations : List Mutation) :
    Action Client Unit := do
  lookUp connection table
  note (.put connection.number table mutations)
  match connection.backend with
  | .direct =>
    log (.wrote table mutations)
    pass .put
  | .gateway => sendRuns table (Run.ofMutations mutations)

/-- Writes the mutations of one table, and counts what has been written. -/
def putTable (connection : Connection) (table : String) (mutations : List Mutation) :
    Action Client Unit := do
  let written ← Action.attempt (writeTable connection table mutations)
  count (.putDuration table)
  match written with
  | .ok () =>
    count (.puts table true)
    count (.rowsWritten table) mutations.length
    count (.cellsWritten table) (mutations.flatMap (·.cells)).length
    .modify fun c => { c with metrics := c.metrics.observeBatch table mutations.length }
    update fun s => { s with putCount := s.putCount + 1 }
  | .error e =>
    if !e.isService then count (.errors e.kind "put")
    count (.puts table false)
    Action.fail (if e.isService then e else .store (.put mutations.length table) e)

def putTables (connection : Connection) : List (String × List Mutation) → Action Client Unit
  | [] => pure ()
  | (table, mutations) :: rest => do
    putTable connection table mutations
    putTables connection rest

/-- Writes requests. A request that names no table goes to the given one. -/
def put (table : String) (requests : List PutRequest) : Action Client Unit := do
  let connection ← requireConnection
  match Mutation.batchByTable (some table) requests with
  | .error row => Action.fail (.noTable row)
  | .ok tables => putTables connection tables.entries

def putRow (table : String) (row : Option Bytes) (columns : List CellWrite)
    (timestamp : Option Int) : Action Client Unit :=
  put table [⟨some table, row, columns, timestamp⟩]

def delete (table : String) (row : Option Bytes) : Action Client Unit := do
  let connection ← requireConnection
  let deleted ← Action.attempt do
    lookUp connection table
    note (.deleted connection.number table row)
    log (.deleted table row)
    pass .delete
  match deleted with
  | .ok () => return
  | .error e =>
    count (.errors e.kind "delete")
    Action.fail (.store (.delete row table) e)

/-- Looks up a table; its name is its own. -/
def tableName (table : String) : Action Client String := do
  let connection ← requireConnection
  lookUp connection table
  return table

end WideColumn.Client
