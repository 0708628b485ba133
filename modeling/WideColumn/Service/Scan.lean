import WideColumn.Filter.Parser
import WideColumn.Filter.Printer
import WideColumn.Service.Basic

/-!
Scanning through a service. A cursor opens its scanner when the first row is asked for, and closes
it when the rows end, the limit is reached, a read fails or the cursor is closed.
-/
namespace WideColumn

structure ScanRequest where
  table : String
  columns : List Column := []
  filter : Option Filter.Node := none
  minTimestamp : Int := 0
  startRow : Option Bytes := none
  stopRow : Option Bytes := none
  limit : Option Int := none

namespace ScanRequest

def order (r : ScanRequest) : Except Mismatch Store.ScanOrder := do
  return {
    table := r.table
    columns := ← r.columns.mapM Column.name
    filter := r.filter.map Filter.Node.wire
    minTimestamp := r.minTimestamp
    startRow := r.startRow
    stopRow := r.stopRow }

def isDone (r : ScanRequest) (rows : Nat) : Bool :=
  match r.limit with
  | none => false
  | some limit => limit ≤ rows

end ScanRequest

/-- An open scanner: the rows that it has not read yet, the number of those that it has, and,
where a gateway reads them, whether it is reading. A row that cannot be read is told when it is
reached. -/
structure Scanner where
  backend : Backend
  remaining : List (Except Mismatch ScannedRow)
  index : Nat := 0
  isReading : Bool := false

inductive Cursor
  | waiting (connection : Connection) (request : ScanRequest)
  | reading (scanner : Scanner) (request : ScanRequest) (rows : Nat)
  | finished

namespace Client

def makeScanner (connection : Connection) (request : ScanRequest) : Action Client Scanner :=
  match connection.backend with
  | .direct => do
    let order ← Action.ofExcept (request.order.mapError .mismatch)
    log (.scannerOpened connection.number order)
    pass .scanner
    let c ← Action.get
    return { backend := .direct, remaining := c.store.rows.map StoredRow.scanned }
  | .gateway => do
    lookUp connection request.table
    let order ← Action.ofExcept (request.order.mapError .mismatch)
    log (.gatewayScanned order.toGateway)
    pass .scanner
    let c ← Action.get
    return {
      backend := .gateway
      remaining := c.store.rows.map fun r => do (← r.gateway).since request.minTimestamp }

def openScanner (connection : Connection) (request : ScanRequest) : Action Client Scanner := do
  note (.scannerAsked connection.number request.table)
  let scanner ← makeScanner connection request
  note .scannerOpened
  return scanner

/-- Ends what the gateway reads. That does not fail. -/
def endGatewayScan : Action Client Unit := log .gatewayScanClosed

/-- Closes a scanner. At a gateway there is nothing to close before it reads and after it has
ended. -/
def closeScanner (s : Scanner) : Action Client Unit := do
  note .scannerClosed
  match s.backend with
  | .direct =>
    log .scannerClosed
    pass .scannerClose
  | .gateway => if s.isReading then endGatewayScan else pure ()

/-- Fails if a fault is planned for the read after `index` rows. -/
def checkRead (index : Nat) : Action Client Unit := do
  let c ← Action.get
  match c.store.readFault? index with
  | some fault =>
    meet ⟨.point .read, fault⟩
    Action.fail fault
  | none => pure ()

def reach (index : Nat) (row : Except Mismatch ScannedRow) : Action Client ScannedRow := do
  checkRead index
  Action.ofExcept (row.mapError .mismatch)

def readGateway : List (Except Mismatch ScannedRow) → Nat →
    Action Client (Option ScannedRow × Scanner)
  | [], index => do
    match ← Action.attempt (checkRead index) with
    | .ok () =>
      endGatewayScan
      return (none, ⟨.gateway, [], index, false⟩)
    | .error e =>
      endGatewayScan
      Action.fail e
  | row :: rest, index => do
    match ← Action.attempt (reach index row) with
    | .ok row =>
      if row.cells.isEmpty then readGateway rest (index + 1)
      else return (some row, ⟨.gateway, rest, index + 1, true⟩)
    | .error e =>
      endGatewayScan
      Action.fail e

def readRow (s : Scanner) : Action Client (Option ScannedRow × Scanner) := do
  note .rowAsked
  match s.backend with
  | .direct =>
    match s.remaining with
    | [] =>
      checkRead s.index
      return (none, s)
    | row :: rest =>
      return (some (← reach s.index row), { s with remaining := rest, index := s.index + 1 })
  | .gateway => readGateway s.remaining s.index

/-- A fault of the store during an action, as it reaches the caller. -/
def storeFault (action : StoreAction) (e : Fault) : Fault :=
  if e.isService then e else .store action e

def advance (s : Scanner) (request : ScanRequest) (rows : Nat) :
    Action Client (Option ScannedRow × Cursor) := do
  if request.isDone rows then
    closeScanner s
    return (none, .finished)
  match ← Action.attempt (readRow s) with
  | .ok (none, s) =>
    closeScanner s
    return (none, .finished)
  | .ok (some row, s) =>
    count (.rowsRead request.table)
    count (.cellsRead request.table) row.cells.length
    return (some row, .reading s request (rows + 1))
  | .error e =>
    closeScanner { s with isReading := false }
    Action.fail (storeFault (.readScan request.table) e)

/-- The next row of a cursor, if there is one. A cursor that fails is finished. -/
def next : Cursor → Action Client (Option ScannedRow × Cursor)
  | .waiting connection request => do
    match ← Action.attempt (openScanner connection request) with
    | .ok s => advance s request 0
    | .error e => Action.fail (storeFault (.openScanner request.table) e)
  | .reading s request rows => advance s request rows
  | .finished => return (none, .finished)

/-- Closes a cursor. One that has not been asked for a row has nothing to close. -/
def closeCursor : Cursor → Action Client Unit
  | .waiting .. | .finished => pure ()
  | .reading s _ _ => closeScanner s

def parseFilter (expression : Option String) : Action Client (Option Filter.Node) := do
  let c ← Action.get
  let text := expression.getD ""
  match Filter.parse c.service.filters text.toList with
  | .ok node => return node
  | .error e => Action.fail (.ofFilter text e)

/-- A cursor over the rows that a request asks for. The expression is parsed at once. -/
def openCursor (request : ScanRequest) (expression : Option String) : Action Client Cursor := do
  let connection ← requireConnection
  let filter ← parseFilter expression
  return .waiting connection { request with filter }

/-- What is done with the row of a number: it is handled, which may leave events, or it fails. -/
abbrev RowHandler := Nat → ScannedRow → Except Fault (List Store.Event)

def logAll : List Store.Event → Action Client Unit
  | [] => pure ()
  | e :: rest => do
    log e
    logAll rest

/-- Hands the rows of a cursor to a handler: the rows handled, or the fault that ended the scan; and
what is left of the cursor. -/
def handleRows (handler : RowHandler) : (fuel : Nat) → List ScannedRow → Cursor →
    Action Client (Except Fault (List ScannedRow) × Cursor)
  | 0, handled, cursor => return (.ok handled, cursor)
  | fuel + 1, handled, cursor => do
    match ← Action.attempt (next cursor) with
    | .error e => return (.error e, .finished)
    | .ok (none, cursor) => return (.ok handled, cursor)
    | .ok (some row, cursor) =>
      match handler handled.length row with
      | .ok events =>
        logAll events
        handleRows handler fuel (handled ++ [row]) cursor
      | .error e =>
        meet ⟨.handler row.key, e⟩
        count (.errors e.kind "scan_handler")
        return (.error (.handlerAborted row.key e), cursor)

/-- Scans a table and hands every row to a handler: the rows that it handled. -/
def scan (request : ScanRequest) (expression : Option String) (handler : RowHandler) :
    Action Client (List ScannedRow) := do
  let cursor ← openCursor request expression
  let c ← Action.get
  let (outcome, cursor) ← handleRows handler (c.store.rows.length + 1) [] cursor
  count (.scanDuration request.table)
  closeCursor cursor
  count (.scans request.table outcome.toBool)
  match outcome with
  | .ok rows =>
    update fun s => { s with scanCount := s.scanCount + 1 }
    return rows
  | .error e => Action.fail e

end Client
end WideColumn
