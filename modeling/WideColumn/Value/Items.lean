import WideColumn.Value.Basic
import WideColumn.Value.Mismatch

/-!
Values as lists of items, and lists of pairs as the entries of a dictionary. The items of a text are
its characters, those of a byte string are numbers, and those of a dictionary are its keys.
-/
namespace WideColumn.Value

def items? : Value → Option (List Value)
  | list items => some items
  | text s => some (s.toList.map fun c => text (String.singleton c))
  | bytes b => some (b.map fun x => whole x.toNat)
  | dict entries => some (entries.map (·.1))
  | null | flag _ | whole _ | double _ => none

def items (value : Value) : Except Mismatch (List Value) :=
  match value.items? with
  | some items => .ok items
  | none => .error (.notListed value.typeName)

def key (value : Value) : Except Mismatch Value :=
  if value.isKey then .ok value else .error (.notKey value.typeName)

/-- What the entries of a dictionary have under a key; null where there is none. -/
def lookupIn (entries : List (Value × Value)) (value : Value) : Except Mismatch Value :=
  value.key.map fun k => lookup k entries

def entry (index : Nat) (item : Value) : Except Mismatch (Value × Value) :=
  match item.items? with
  | none => .error (.noEntry index)
  | some [k, value] => k.key.map (·, value)
  | some parts => .error (.entryLength index parts.length)

/-- The entries that items are, where `index` items come before them. -/
def entriesFrom (index : Nat) : List Value → Except Mismatch (List (Value × Value))
  | [] => .ok []
  | item :: rest => do
    let first ← entry index item
    let more ← entriesFrom (index + 1) rest
    return first :: more

/-- The entries of a dictionary, or those that the items of another value are. -/
def entries : Value → Except Mismatch (List (Value × Value))
  | dict entries => .ok entries
  | value => do
    let items ← value.items
    return writeEntries (← entriesFrom 0 items)

end WideColumn.Value
