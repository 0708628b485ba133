import WideColumn.OrderedMap
import WideColumn.Value.Basic
import WideColumn.Value.Mismatch

/-!
What is read: columns, cells and rows. A cell addresses its parts as slices of byte strings that it
may share with other cells.
-/
namespace WideColumn

/-- A family, or one qualifier of a family. Nothing keeps a caller from leaving the family out. -/
structure Column where
  family : Option Bytes
  qualifier : Option Bytes := none
  deriving DecidableEq, Repr

namespace Column

def colon : UInt8 := 0x3a

def join (family qualifier : Bytes) : Bytes := family ++ colon :: qualifier

/-- The name of the column: the family, or family and qualifier with a colon between them. A
qualifier needs a family. -/
def name (c : Column) : Except Mismatch (Option Bytes) :=
  match c.family, c.qualifier with
  | family, none => .ok family
  | some family, some qualifier => .ok (some (join family qualifier))
  | none, some _ => .error (.notAdded Value.null.typeName (Value.bytes []).typeName)

end Column

/-- A slice of a byte string. Offset and length may be any integers. -/
structure Slice where
  array : Bytes
  offset : Int
  length : Int
  deriving DecidableEq, Repr

namespace Slice

def whole (b : Bytes) : Slice := ⟨b, 0, b.length⟩

/-- The place in a string of `size` bytes that an index addresses: a negative index counts from the
end, and what lies outside is moved to the nearest end. -/
def place (size : Nat) (index : Int) : Nat :=
  min size (if index < 0 then (index + size).toNat else index.toNat)

def bytes (s : Slice) : Bytes :=
  (s.array.take (place s.array.length (s.offset + s.length))).drop (place s.array.length s.offset)

@[simp] theorem bytes_whole (b : Bytes) : (whole b).bytes = b := by
  have h : ¬ ((b.length : Int) < 0) := by omega
  simp [bytes, whole, place, h]

end Slice

structure Cell where
  row : Slice
  family : Slice
  qualifier : Slice
  value : Slice
  timestamp : Int
  deriving DecidableEq, Repr

namespace Cell

def ofBytes (row family qualifier value : Bytes) (timestamp : Int) : Cell :=
  ⟨.whole row, .whole family, .whole qualifier, .whole value, timestamp⟩

def measured : Option Bytes → Except Mismatch Bytes
  | some b => .ok b
  | none => .error (.notMeasured Value.null.typeName)

/-- The cell with these parts, of which only the qualifier may be left open. -/
def ofParts (row family qualifier value : Option Bytes) (timestamp : Int) :
    Except Mismatch Cell := do
  return ofBytes (← measured row) (← measured family) (qualifier.getD []) (← measured value)
    timestamp

/-- Where family and qualifier stand in the name of a column: two offsets with their lengths. A
name without a colon is all family. -/
def splitColumn (column : Bytes) : (Nat × Nat) × (Nat × Nat) :=
  match Bytes.splitAt? Column.colon column with
  | none => ((0, column.length), (column.length, 0))
  | some (family, qualifier) =>
    ((0, family.length), (family.length + 1, qualifier.length))

def searched : Option Bytes → Except Mismatch Bytes
  | some column => .ok column
  | none => .error (.lacks Value.null.typeName "find")

/-- The cell of a column, which addresses family and qualifier in the column's name. -/
def ofColumn (row column value : Bytes) (timestamp : Int) : Cell :=
  let (family, qualifier) := splitColumn column
  ⟨.whole row, ⟨column, family.1, family.2⟩, ⟨column, qualifier.1, qualifier.2⟩, .whole value,
    timestamp⟩

end Cell

/-- A row as a scan returns it. Only a row without cells can be without a key. -/
structure ScannedRow where
  key : Option Bytes
  cells : List Cell
  deriving DecidableEq, Repr

namespace ScannedRow

/-- The newest timestamp of a list of cells. -/
def newest? : List Cell → Option Int
  | [] => none
  | c :: rest => some (rest.foldl (fun t c => max t c.timestamp) c.timestamp)

end ScannedRow

/-- A row as the gateway returns it: the name of each column with its value and timestamp. -/
structure GatewayRow where
  key : Option Bytes
  columns : OrderedMap (Option Bytes) (Option Bytes × Int)
  deriving DecidableEq, Repr

namespace GatewayRow

def cell (key column value : Option Bytes) (timestamp : Int) : Except Mismatch Cell := do
  let column ← Cell.searched column
  return Cell.ofColumn (← Cell.measured key) column (← Cell.measured value) timestamp

/-- The cells of a gateway row that are not older than a timestamp. -/
def since (r : GatewayRow) (minTimestamp : Int) : Except Mismatch ScannedRow := do
  let columns := r.columns.entries.filter fun c => minTimestamp ≤ c.2.2
  return ⟨r.key, ← columns.mapM fun c => cell r.key c.1 c.2.1 c.2.2⟩

end GatewayRow

end WideColumn
