import WideColumn.Text.Integer

/-!
Values of the wrong type. What is configured and what is published may be any value, so an
operation can meet a value that does not have it; a mismatch says which operation, and of what type
the value is.
-/
namespace WideColumn

inductive Mismatch
  | lacks (typeName operation : String)
  | notOrdered (operator left right : String)
  | notAdded (left right : String)
  | notAppended (typeName right : String)
  | notListed (typeName : String)
  | notSearched (typeName : String)
  | notMeasured (typeName : String)
  | notSliced (typeName : String)
  | notKey (typeName : String)
  | notBytes (typeName : String)
  | notByte (typeName : String)
  | byteRange
  | negativeSize
  | sizeRange
  | noPattern (typeName : String)
  | textPattern
  | textStart
  | textPart
  | noEntry (index : Nat)
  | entryLength (index length : Nat)
  deriving DecidableEq, Repr

namespace Mismatch

/-- Whether the value has the right type, and yet is not one of those that are asked for. -/
def isOfValue : Mismatch → Bool
  | byteRange | negativeSize | entryLength .. => true
  | _ => false

def message : Mismatch → String
  | lacks typeName operation =>
    "'" ++ typeName ++ "' object has no attribute '" ++ operation ++ "'"
  | notOrdered operator left right =>
    "'" ++ operator ++ "' not supported between instances of '" ++ left ++ "' and '" ++ right ++ "'"
  | notAdded left right =>
    "unsupported operand type(s) for +: '" ++ left ++ "' and '" ++ right ++ "'"
  | notAppended typeName right => "can't concat " ++ right ++ " to " ++ typeName
  | notListed typeName => "'" ++ typeName ++ "' object is not iterable"
  | notSearched typeName => "argument of type '" ++ typeName ++ "' is not iterable"
  | notMeasured typeName => "object of type '" ++ typeName ++ "' has no len()"
  | notSliced typeName => "'" ++ typeName ++ "' object is not subscriptable"
  | notKey typeName => "unhashable type: '" ++ typeName ++ "'"
  | notBytes typeName => "cannot convert '" ++ typeName ++ "' object to bytes"
  | notByte typeName => "'" ++ typeName ++ "' object cannot be interpreted as an integer"
  | byteRange => "bytes must be in range(0, 256)"
  | negativeSize => "negative count"
  | sizeRange => "cannot fit 'int' into an index-sized integer"
  | noPattern typeName => "expected string or bytes-like object, got '" ++ typeName ++ "'"
  | textPattern => "cannot use a string pattern on a bytes-like object"
  | textStart => "startswith first arg must be bytes or a tuple of bytes, not str"
  | textPart => "a bytes-like object is required, not 'str'"
  | noEntry index =>
    "cannot convert dictionary update sequence element #" ++ String.ofList (Text.natural index) ++
      " to a sequence"
  | entryLength index length =>
    "dictionary update sequence element #" ++ String.ofList (Text.natural index) ++
      " has length " ++ String.ofList (Text.natural length) ++ "; 2 is required"

end Mismatch
end WideColumn
