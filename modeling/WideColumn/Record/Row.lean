import WideColumn.Read.Cell
import WideColumn.Record.Basic

/-!
Scanned rows as records. Every cell becomes a field that is named for its column, and the newest
timestamp of the cells has a field of its own.
-/
namespace WideColumn.Record

def fieldName (c : Cell) : String :=
  Utf8.toStringLossy c.family.bytes ++ ":" ++ Utf8.toStringLossy c.qualifier.bytes

def addCells (r : Record) (cells : List Cell) : Record :=
  cells.foldl
    (fun (r : Record) c =>
      Value.writeEntry (.text (fieldName c)) (.text (Utf8.toStringLossy c.value.bytes)) r) r

def newestOf (cells : List Cell) : Value :=
  match ScannedRow.newest? cells with
  | some t => .whole t
  | none => .null

def ofRow (rowKeyField : Value) (row : Option Bytes) (cells : List Cell) :
    Except Mismatch Record :=
  match row with
  | none => .error (.lacks Value.null.typeName "decode")
  | some row => do
    let field ← rowKeyField.key
    let filled := addCells [(field, .text (Utf8.toStringLossy row))] cells
    return Value.writeEntry (.text timestampField) (newestOf cells) filled

end WideColumn.Record
