import WideColumn.Read.Cell

/-!
The progress of repeated scans of a table: the timestamp that has been reached, and the rows that
have been delivered at it. A row is new when its newest cell is younger than that, or as old and the
row has not been delivered at it.
-/
namespace WideColumn.Stream

/-- How far repeated scans have come. -/
structure Progress where
  minTimestamp : Int
  seen : List (Option Bytes) := []
  deriving DecidableEq, Repr

namespace Progress

/-- Whether a row whose newest cell has a timestamp is new. -/
def isNew (p : Progress) (key : Option Bytes) (newest : Int) : Bool :=
  p.minTimestamp < newest || (p.minTimestamp = newest && !p.seen.contains key)

def newRows (p : Progress) (rows : List ScannedRow) : List (Int × ScannedRow) :=
  rows.filterMap fun row =>
    match ScannedRow.newest? row.cells with
    | none => none
    | some newest => if p.isNew row.key newest then some (newest, row) else none

def note (p : Progress) (newest : Int) (key : Option Bytes) : Progress :=
  if p.minTimestamp < newest then ⟨newest, [key]⟩
  else if p.minTimestamp = newest && !p.seen.contains key then { p with seen := p.seen ++ [key] }
  else p

def noteAll (p : Progress) (rows : List (Int × ScannedRow)) : Progress :=
  rows.foldl (fun p row => p.note row.1 row.2.key) p

end Progress
end WideColumn.Stream
