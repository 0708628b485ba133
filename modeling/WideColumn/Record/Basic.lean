import WideColumn.Value.Bytes

/-!
Records: named fields in order. A name is a text as a rule, and may hold a family and a qualifier
with a colon between them; a record that is published can have any value that is a key as a name.
-/
namespace WideColumn

/-- A record: its fields, with their names in front of their values. No name occurs twice. -/
abbrev Record := List (Value × Value)

namespace Record

def defaultRowKeyField : String := "__dagserver_key"

def timestampField : String := "__timestamp"

def splitName? (name : String) : Option (String × String) :=
  let cs := name.toList
  let family := cs.takeWhile (· ≠ ':')
  match cs.drop family.length with
  | [] => none
  | _ :: qualifier => some (String.ofList family, String.ofList qualifier)

def textToStart : Value → Except Mismatch String
  | .text s => .ok s
  | .bytes _ => .error .textStart
  | value => .error (.lacks value.typeName "startswith")

def isMetadata (name : String) : Bool := ['_', '_'].isPrefixOf name.toList

end Record
end WideColumn
