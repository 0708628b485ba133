import WideColumn.Action
import WideColumn.Store.Call
import WideColumn.Store.Event

/-!
The store: the rows that scans return, the faults that are planned for it, the log of what has
happened, the calls that services have made, and the faults that have occurred.
-/
namespace WideColumn

structure StoredCell where
  family : Option Bytes
  qualifier : Option Bytes
  value : Option Bytes
  timestamp : Int
  deriving DecidableEq, Repr

structure StoredRow where
  key : Option Bytes
  cells : List StoredCell
  deriving DecidableEq, Repr

namespace StoredRow

def scanned (r : StoredRow) : Except Mismatch ScannedRow := do
  return ⟨r.key, ← r.cells.mapM fun c =>
    Cell.ofParts r.key c.family c.qualifier c.value c.timestamp⟩

def gateway (r : StoredRow) : Except Mismatch GatewayRow := do
  let columns ← r.cells.mapM fun c => do
    return (← (Column.mk c.family c.qualifier).name, c.value, c.timestamp)
  return ⟨r.key, .ofList columns⟩

end StoredRow

/-- A fault that is planned for a point: it occurs every time once the point has been passed often
enough. -/
structure Planned where
  after : Nat
  fault : Fault

namespace Store

/-- Where a fault occurs: at a point of the store, or in the handling of a row. -/
inductive Origin
  | point (point : Point)
  | handler (row : Option Bytes)
  deriving DecidableEq, Repr

/-- A fault that has occurred, whatever becomes of it then. -/
structure Incident where
  origin : Origin
  fault : Fault

end Store

structure Store where
  rows : List StoredRow := []
  plan : Store.Point → Option Planned := fun _ => none
  connections : Nat := 0
  log : List Store.Event := []
  calls : List Store.Made := []
  incidents : List Store.Incident := []

namespace Store

/-- Plans a fault for a point, or none. -/
def planFault (s : Store) (point : Point) (planned : Option Planned) : Store :=
  { s with plan := fun p => if p = point then planned else s.plan p }

def record (s : Store) (e : Event) : Store := { s with log := s.log ++ [e] }

def note (s : Store) (made : Made) : Store := { s with calls := s.calls ++ [made] }

def meet (s : Store) (incident : Incident) : Store :=
  { s with incidents := s.incidents ++ [incident] }

def pass (s : Store) (point : Point) : Option Fault × Store :=
  match s.plan point with
  | none => (none, s)
  | some ⟨0, fault⟩ => (some fault, s.meet ⟨.point point, fault⟩)
  | some ⟨after + 1, fault⟩ => (none, s.planFault point (some ⟨after, fault⟩))

/-- The fault that occurs when a scan that has read `index` rows goes on. -/
def readFault? (s : Store) (index : Nat) : Option Fault :=
  match s.plan .read with
  | some ⟨after, fault⟩ => if after ≤ index then some fault else none
  | none => none

end Store
end WideColumn
