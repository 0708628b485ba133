import WideColumn.Value.Items

/-!
Values as byte strings. A text is its UTF-8, a whole number is as many zero bytes, and the items of
a list are bytes themselves.
-/
namespace WideColumn.Value

def toByte (value : Value) : Except Mismatch UInt8 :=
  match value.integral? with
  | none => .error (.notByte value.typeName)
  | some n =>
    if 0 ≤ n ∧ n < 256 then .ok (UInt8.ofNat n.toNat) else .error .byteRange

/-- A number of zero bytes. A number that is no size of anything has none. -/
def zeros (n : Int) : Except Mismatch Bytes :=
  if n < -Bytes.int64Limit ∨ Bytes.int64Limit ≤ n then .error .sizeRange
  else if n < 0 then .error .negativeSize
  else .ok (List.replicate n.toNat 0)

def toBytes (value : Value) : Except Mismatch Bytes :=
  match value with
  | text s => .ok (Utf8.ofString s)
  | bytes b => .ok b
  | null | double _ => .error (.notBytes value.typeName)
  | list items => items.mapM toByte
  | dict entries => entries.mapM (toByte ·.1)
  | flag b => zeros (if b then 1 else 0)
  | whole n => zeros n

def toBytes? : Value → Except Mismatch (Option Bytes)
  | null => .ok none
  | value => value.toBytes.map some

end WideColumn.Value
