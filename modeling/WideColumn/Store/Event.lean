import WideColumn.Read.Cell
import WideColumn.Write.Request

/-!
What can be observed of the work with a store, in the order in which it happens.
-/
namespace WideColumn.Store

structure GatewayAddress where
  host : String
  port : Int
  timeout : Option Int
  transport : String
  protocol : String
  deriving DecidableEq, Repr

/-- What a scan asks the store for. The filter is in its written form. -/
structure ScanOrder where
  table : String
  columns : List (Option Bytes)
  filter : Option Bytes
  minTimestamp : Int
  startRow : Option Bytes
  stopRow : Option Bytes
  deriving DecidableEq, Repr

/-- What a scan asks the gateway for. It has no lower bound for timestamps. -/
structure GatewayScan where
  table : String
  startRow : Option Bytes
  stopRow : Option Bytes
  columns : Option (List (Option Bytes))
  filter : Option Bytes
  includeTimestamp : Bool := true
  sortedColumns : Bool := true
  batchSize : Nat := 1000
  deriving DecidableEq, Repr

/-- What a scan asks the gateway for. No columns means all columns. -/
def ScanOrder.toGateway (o : ScanOrder) : GatewayScan where
  table := o.table
  startRow := o.startRow
  stopRow := o.stopRow
  columns := if o.columns.isEmpty then none else some o.columns
  filter := o.filter

/-- One thing that happens. Connections have numbers. -/
inductive Event
  | connected (connection : Nat)
  | gatewayMade (connection : Nat) (address : GatewayAddress)
  | gatewayOpened (connection : Nat)
  | closed (connection : Nat)
  | wrote (table : String) (mutations : List Mutation)
  | deleted (table : String) (row : Option Bytes)
  | batchOpened (table : String) (timestamp : Option Int)
  | batchFilled (row : Option Bytes) (column : Bytes) (value : Option Bytes)
  | batchSent
  | batchDropped (kind : String)
  | scannerOpened (connection : Nat) (order : ScanOrder)
  | scannerClosed
  | gatewayScanned (scan : GatewayScan)
  | gatewayScanClosed
  | rowHandled (row : ScannedRow)
  | slept (seconds : Value)
  | recorded (data : Value)

inductive Point
  | connect
  | table
  | put
  | delete
  | scanner
  | read
  | scannerClose
  | close
  | batch
  | batchPut
  | batchSend
  | metrics
  deriving DecidableEq, Repr

end WideColumn.Store
