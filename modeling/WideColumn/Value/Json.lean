import WideColumn.Value.Display

/-!
Values as JSON text, in ASCII. Byte strings have no JSON form, and neither has a whole number that is
too long to be written; a dictionary key has to be a text, a number, a flag or null.
-/
namespace WideColumn

inductive JsonError
  | value (typeName : String)
  | key (typeName : String)
  | number (error : Text.IntegerError)
  deriving DecidableEq, Repr

def JsonError.message : JsonError → String
  | value typeName => "Object of type " ++ typeName ++ " is not JSON serializable"
  | key typeName => "keys must be str, int, float, bool or None, not " ++ typeName
  | number error => error.message

namespace Value

/-- Doubles in JSON are laid out as in display, but for the names of infinity and of what is not a
number. -/
def jsonLayout : Decimal.Layout := ⟨-4, 15, "NaN", "Infinity"⟩

def jsonUnit (n : Nat) : List Char := '\\' :: 'u' :: Bytes.hexDigits 4 n

def jsonChar (c : Char) : List Char :=
  if c = '"' || c = '\\' then ['\\', c]
  else if c = '\n' then ['\\', 'n']
  else if c = '\r' then ['\\', 'r']
  else if c = '\t' then ['\\', 't']
  else if c = '\x08' then ['\\', 'b']
  else if c = '\x0c' then ['\\', 'f']
  else if ' ' ≤ c ∧ c ≤ '~' then [c]
  else if c.toNat < 0x10000 then jsonUnit c.toNat
  else
    let above := c.toNat - 0x10000
    jsonUnit (0xd800 + above / 0x400) ++ jsonUnit (0xdc00 + above % 0x400)

def jsonString (cs : List Char) : List Char := '"' :: cs.flatMap jsonChar ++ ['"']

/-- A whole number in JSON has the digits that it has as text. -/
def jsonWhole (n : Int) : Except JsonError (List Char) := (Text.writeInteger n).mapError .number

/-- How a value without parts is laid out, whether or not it can be written. -/
def jsonAtom? : Value → Option (List Char)
  | null => some "null".toList
  | flag b => some (if b then "true".toList else "false".toList)
  | whole n => some (Text.integer n)
  | double x => some (jsonLayout.render x)
  | _ => none

def jsonKey (key : Value) : Except JsonError (List Char) :=
  match key with
  | text s => .ok (jsonString s.toList)
  | whole n => (jsonWhole n).map jsonString
  | _ =>
    match key.jsonAtom? with
    | some atom => .ok (jsonString atom)
    | none => .error (.key key.typeName)

mutual
def json : Value → Except JsonError (List Char)
  | text s => .ok (jsonString s.toList)
  | bytes _ => .error (.value "bytes")
  | list items => (jsonItems items).map fun parts => '[' :: joinWith [',', ' '] parts ++ [']']
  | dict entries =>
    (jsonEntries entries).map fun parts => '\x7b' :: joinWith [',', ' '] parts ++ ['\x7d']
  | null => .ok "null".toList
  | flag b => .ok (if b then "true".toList else "false".toList)
  | whole n => jsonWhole n
  | double x => .ok (jsonLayout.render x)

def jsonItems : List Value → Except JsonError (List (List Char))
  | [] => .ok []
  | item :: rest => do
    let first ← json item
    let more ← jsonItems rest
    return first :: more

def jsonEntries : List (Value × Value) → Except JsonError (List (List Char))
  | [] => .ok []
  | (key, value) :: rest => do
    let k ← jsonKey key
    let v ← json value
    let more ← jsonEntries rest
    return (k ++ ':' :: ' ' :: v) :: more
end

end Value
end WideColumn
