import WideColumn.Write.Request

/-!
Runs of cells with one timestamp. The gateway takes cells in batches that have a single timestamp,
so the cells of a list of mutations go out as the longest runs of equal timestamps.
-/
namespace WideColumn

structure RowCell where
  row : Option Bytes
  cell : CellWrite
  deriving DecidableEq, Repr

structure Run where
  timestamp : Option Int
  cells : List RowCell
  deriving DecidableEq, Repr

namespace Run

def rowCells (mutations : List Mutation) : List RowCell :=
  mutations.flatMap fun m => m.cells.map (⟨m.row, ·⟩)

def cons (cell : RowCell) : List Run → List Run
  | [] => [⟨cell.cell.timestamp, [cell]⟩]
  | run :: rest =>
    if cell.cell.timestamp = run.timestamp then ⟨run.timestamp, cell :: run.cells⟩ :: rest
    else ⟨cell.cell.timestamp, [cell]⟩ :: run :: rest

/-- The longest runs of cells with equal timestamps. -/
def split (cells : List RowCell) : List Run := cells.foldr cons []

def ofMutations (mutations : List Mutation) : List Run := split (rowCells mutations)

end Run
end WideColumn
