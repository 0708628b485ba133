import WideColumn.Record.Basic
import WideColumn.Value.Encoding
import WideColumn.Value.Number
import WideColumn.Write.Request

/-!
Records as requests. The fields of a record become cells of the row that one of them names, but for
those that are about the record; a record without a row key makes no request.
-/
namespace WideColumn

inductive RecordError
  | mismatch (error : Mismatch)
  | encoding (error : EncodingError)
  | timestamp (error : NumberError)
  deriving DecidableEq, Repr

namespace Record

/-- How records are written. The fields are looked up by any value that is configured for them. -/
structure Layout where
  columnFamily : Value := .text "cf"
  rowKeyField : Value := .text defaultRowKeyField
  timestampField : Value := .null
  valueEncoding : ValueEncoding := .text
  rowKeyEncoding : RowKeyEncoding := .text

namespace Layout

def writes (layout : Layout) (name : String) (value : Value) : Bool :=
  !isMetadata name && !(Value.text name).sameKey layout.rowKeyField &&
    !(Value.text name).sameKey layout.timestampField && !value.isNull

def column (layout : Layout) (name : String) : Value × String :=
  match splitName? name with
  | some (family, qualifier) => (.text family, qualifier)
  | none => (layout.columnFamily, name)

def cell? (layout : Layout) (field : Value × Value) : Except RecordError (Option CellWrite) := do
  let name ← (textToStart field.1).mapError .mismatch
  if layout.writes name field.2 then
    let (family, qualifier) := layout.column name
    let value ← (field.2.encode layout.valueEncoding).mapError .encoding
    let family ← family.toBytes?.mapError .mismatch
    return some ⟨family, some (Utf8.ofString qualifier), some value, none⟩
  else return none

/-- The row key of a record, if it has one that is neither null nor the empty text. -/
def rowKey? (layout : Layout) (r : Record) : Except Mismatch (Option Value) :=
  (layout.rowKeyField.lookupIn r).map fun
    | .null => none
    | .text s => if s.isEmpty then none else some (.text s)
    | key => some key

def timestampOf (layout : Layout) (r : Record) : Except Mismatch Value :=
  if layout.timestampField.isSet then layout.timestampField.lookupIn r else .ok .null

end Layout

def timestamp? : Value → Except NumberError (Option Int)
  | .null => .ok none
  | value => value.toInteger.map some

/-- The request that writes a record to a table; none if the record has no row key. -/
def toRequest (layout : Layout) (table : Option String) (r : Record) :
    Except RecordError (Option PutRequest) := do
  match ← (layout.rowKey? r).mapError .mismatch with
  | none => return none
  | some key =>
    let given ← (layout.timestampOf r).mapError .mismatch
    let cells ← r.mapM layout.cell?
    let row ← (key.toRowKey layout.rowKeyEncoding).mapError .encoding
    let timestamp ← (timestamp? given).mapError .timestamp
    return some ⟨table, some row, cells.filterMap id, timestamp⟩

/-- The request that writes published data to a table. Only a dictionary is a record. -/
def requestOf (layout : Layout) (table : Option String) :
    Value → Except RecordError (Option PutRequest)
  | .dict entries => toRequest layout table entries
  | data => .error (.mismatch (.lacks data.typeName "get"))

end Record
end WideColumn
