import WideColumn.Bytes.Escaped
import WideColumn.Value.Json

/-!
Values as the bytes of a cell, and as row keys.

In the binary encoding a flag is one byte, `ff` or `00`; a whole number is eight bytes of two's
complement and a double its eight bytes, both with the most significant byte first; a text is its
UTF-8.
-/
namespace WideColumn

inductive EncodingError
  | type (typeName : String)
  | range
  | json (error : JsonError)
  | number (error : Text.IntegerError)
  deriving DecidableEq, Repr

def EncodingError.message : EncodingError → String
  | type typeName => "Cannot convert " ++ typeName ++ " to bytes"
  | range => "int too large to convert"
  | json error => error.message
  | number error => error.message

inductive ValueEncoding
  | text
  | json
  | binary
  deriving DecidableEq, Repr

/-- How row keys are written. In the binary form, escapes in the key stand for bytes. -/
inductive RowKeyEncoding
  | text
  | binary
  deriving DecidableEq, Repr

/-- An encoding by its name. A name that is not known means text. -/
def ValueEncoding.ofName : String → ValueEncoding
  | "json" => .json
  | "binary" => .binary
  | _ => .text

/-- An encoding by the value that names it. A value that is no text means text. -/
def ValueEncoding.ofValue : Value → ValueEncoding
  | .text name => ofName name
  | _ => .text

/-- A row key encoding by its name. A name that is not known means text. -/
def RowKeyEncoding.ofName : String → RowKeyEncoding
  | "binary" => .binary
  | _ => .text

/-- A row key encoding by the value that names it. A value that is no text means text. -/
def RowKeyEncoding.ofValue : Value → RowKeyEncoding
  | .text name => ofName name
  | _ => .text

namespace Value

def toBinary : Value → Except EncodingError Bytes
  | flag b => .ok [if b then 0xff else 0x00]
  | whole n =>
    match Bytes.ofInt64? n with
    | some b => .ok b
    | none => .error .range
  | double x => .ok (Bytes.bigEndian 8 x.bits.toNat)
  | text s => .ok (Utf8.encode s.toList)
  | bytes b => .ok b
  | value => .error (.type value.typeName)

def toJsonBytes (value : Value) : Except EncodingError Bytes :=
  match value.json with
  | .ok cs => .ok (Utf8.encode cs)
  | .error e => .error (.json e)

/-- The text of a value, in UTF-8. -/
def toTextBytes (value : Value) : Except EncodingError Bytes :=
  (value.shown.mapError .number).map Utf8.encode

/-- The bytes that a value is written as. Byte strings are written as they are in every encoding,
and as text lists and dictionaries are written in JSON. -/
def encode (encoding : ValueEncoding) (value : Value) : Except EncodingError Bytes :=
  match value, encoding with
  | bytes b, _ => .ok b
  | value, .json => value.toJsonBytes
  | value, .binary => value.toBinary
  | list items, .text => (list items).toJsonBytes
  | dict entries, .text => (dict entries).toJsonBytes
  | value, .text => value.toTextBytes

/-- How a value is laid out as a row key, whether or not it has a text. -/
def encodeRowKey (encoding : RowKeyEncoding) (value : Value) : Bytes :=
  match value, encoding with
  | bytes b, _ => b
  | value, .text => Utf8.encode value.display
  | value, .binary => Bytes.unescape (Utf8.encode value.display)

/-- The row key that a value is, if it has a text. -/
def toRowKey (encoding : RowKeyEncoding) (value : Value) : Except EncodingError Bytes :=
  if value.hasText then .ok (value.encodeRowKey encoding) else .error (.number .unwritable)

end Value
end WideColumn
