import WideColumn.OrderedMap
import WideColumn.Text.Quoted

/-!
What is written: requests for rows of tables, and the mutations that they are batched into. Every
distinct row of a table becomes one mutation; its cells keep the order of the requests.
-/
namespace WideColumn

/-- The write of one cell. A part that is not given stays open. -/
structure CellWrite where
  family : Option Bytes
  qualifier : Option Bytes
  value : Option Bytes
  timestamp : Option Int := none
  deriving DecidableEq, Repr

structure PutRequest where
  table : Option String
  row : Option Bytes
  columns : List CellWrite
  timestamp : Option Int := none
  deriving DecidableEq, Repr

structure Mutation where
  row : Option Bytes
  cells : List CellWrite
  deriving DecidableEq, Repr

namespace PutRequest

/-- The cells of a request. A column without a timestamp takes the one of the request. -/
def cells (r : PutRequest) : List CellWrite :=
  r.columns.map fun c => { c with timestamp := c.timestamp <|> r.timestamp }

/-- The table to write to, where an empty name counts as none. -/
def tableOr (r : PutRequest) (default : Option String) : Option String :=
  (r.table.filter (· ≠ "")) <|> (default.filter (· ≠ ""))

end PutRequest

namespace Mutation

def addToGroup {α β : Type} [DecidableEq α] (groups : OrderedMap α (List β)) (key : α)
    (values : List β) : OrderedMap α (List β) :=
  groups.alter key fun group => group.getD [] ++ values

def familyCells (m : Mutation) : OrderedMap (Option Bytes) (List CellWrite) :=
  m.cells.foldl (fun groups cell => addToGroup groups cell.family [cell]) ∅

/-- One mutation for each row, the rows in the order of their first requests. -/
def batch (requests : List PutRequest) : List Mutation :=
  let rows : OrderedMap (Option Bytes) (List CellWrite) :=
    requests.foldl (fun rows r => addToGroup rows r.row r.cells) ∅
  rows.entries.map fun e => ⟨e.1, e.2⟩

/-- The requests by table, the tables in the order of their first requests; or the row of the first
request that has no table. -/
def requestsByTable (default : Option String) (requests : List PutRequest) :
    Except (Option Bytes) (OrderedMap String (List PutRequest)) :=
  requests.foldlM
    (fun groups r =>
      match r.tableOr default with
      | some table => .ok (addToGroup groups table [r])
      | none => .error r.row)
    ∅

def batchByTable (default : Option String) (requests : List PutRequest) :
    Except (Option Bytes) (OrderedMap String (List Mutation)) :=
  (requestsByTable default requests).map (·.mapValues batch)

end Mutation
end WideColumn
