import WideColumn.Bytes.Utf8
import WideColumn.Decimal.Binary64

/-!
Typed values: what a record holds in its fields and a configuration in its settings.
-/
namespace WideColumn

/-- A typed value. The entries of a dictionary are in order, and no key occurs twice. -/
inductive Value
  | null
  | flag (value : Bool)
  | whole (value : Int)
  | double (value : Binary64)
  | text (value : String)
  | bytes (value : Bytes)
  | list (items : List Value)
  | dict (entries : List (Value × Value))
  deriving Inhabited

namespace Value

def isNull : Value → Bool
  | null => true
  | _ => false

/-- The number that a flag or a whole number is. -/
def integral? : Value → Option Int
  | flag b => some (if b then 1 else 0)
  | whole n => some n
  | _ => none

/-- Whether two dictionary keys are the same key. Numbers are the same when they are equal as
numbers, whatever their kind. Lists and dictionaries are no keys. -/
def sameKey : Value → Value → Bool
  | null, null => true
  | text a, text b => a = b
  | bytes a, bytes b => a = b
  | double a, double b => a.numericEq b
  | double a, b => a.whole?.isSome && a.whole? = b.integral?
  | a, double b => b.whole?.isSome && b.whole? = a.integral?
  | a, b => a.integral?.isSome && a.integral? = b.integral?

mutual
/-- Whether two values are equal. Numbers are compared as numbers, lists item by item, and
dictionaries without regard to order. -/
def same : Value → Value → Bool
  | list items, list others => sameItems items others
  | dict entries, dict others => entries.length = others.length && sameEntries entries others
  | a, b => a.sameKey b

def sameItems : List Value → List Value → Bool
  | [], [] => true
  | a :: rest, b :: others => a.same b && sameItems rest others
  | _, _ => false

def sameEntries : List (Value × Value) → List (Value × Value) → Bool
  | [], _ => true
  | (key, a) :: rest, others =>
    (match others.find? fun e => e.1.sameKey key with
      | some (_, b) => a.same b
      | none => false) && sameEntries rest others
end

/-- Writes a key into the entries of a dictionary. A key that is there keeps its place. -/
def writeEntry (key value : Value) : List (Value × Value) → List (Value × Value)
  | [] => [(key, value)]
  | (k, v) :: rest =>
    if k.sameKey key then (k, value) :: rest else (k, v) :: writeEntry key value rest

def writeEntries (entries : List (Value × Value)) : List (Value × Value) :=
  entries.foldl (fun written e => writeEntry e.1 e.2 written) []

def ofEntries (entries : List (Value × Value)) : Value := dict (writeEntries entries)

def isKey : Value → Bool
  | list _ | dict _ => false
  | _ => true

/-- The value of a key among the entries of a dictionary; null where there is none. -/
def lookup (key : Value) : List (Value × Value) → Value
  | [] => null
  | (k, value) :: rest => if k.sameKey key then value else lookup key rest

/-- Whether a value counts as set: neither null, false, zero nor empty. -/
def isSet : Value → Bool
  | null => false
  | flag b => b
  | whole n => n != 0
  | double x => x.isNonzero
  | text s => !s.isEmpty
  | bytes b => !b.isEmpty
  | list items => !items.isEmpty
  | dict entries => !entries.isEmpty

def typeName : Value → String
  | null => "NoneType"
  | flag _ => "bool"
  | whole _ => "int"
  | double _ => "float"
  | text _ => "str"
  | bytes _ => "bytes"
  | list _ => "list"
  | dict _ => "dict"

end Value
end WideColumn
