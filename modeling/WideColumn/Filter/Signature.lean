import WideColumn.Filter.Token
import WideColumn.OrderedMap

/-!
Which arguments a filter takes. A filter has one or more signatures; the arguments of a leaf are
bound to the first one that they match.
-/
namespace WideColumn.Filter

/-- The kind of an argument. A kind that is not known matches no argument. -/
inductive ArgKind
  | text
  | number
  | flag
  | op
  | comparator
  | other (name : String)
  deriving DecidableEq, Repr

namespace ArgKind

def name : ArgKind → String
  | text => "str"
  | number => "int"
  | flag => "bool"
  | op => "op"
  | comparator => "cmp"
  | other name => name

def ofName : String → ArgKind
  | "str" => text
  | "int" => number
  | "bool" => flag
  | "op" => op
  | "cmp" => comparator
  | name => other name

end ArgKind

/-- A kind that the last arguments of a signature repeat, any number of times or at least once. -/
structure Repetition where
  kind : ArgKind
  atLeastOnce : Bool
  deriving DecidableEq, Repr

/-- A signature: the kinds of the first arguments, and of the ones that may follow. -/
structure Signature where
  fixed : List ArgKind
  rest : Option Repetition := none
  deriving DecidableEq, Repr

namespace Signature

def kindNames (s : Signature) : List String :=
  s.fixed.map ArgKind.name ++
    match s.rest with
    | some r => [r.kind.name ++ (if r.atLeastOnce then "+" else "*")]
    | none => []

/-- The signature with these kinds. A mark at the end of the last one makes it repeat. -/
def ofKindNames (names : List String) : Signature :=
  match names.reverse with
  | [] => ⟨[], none⟩
  | last :: before =>
    let fixed := before.reverse.map ArgKind.ofName
    match last.toList.reverse with
    | '+' :: kind => ⟨fixed, some ⟨.ofName (String.ofList kind.reverse), true⟩⟩
    | '*' :: kind => ⟨fixed, some ⟨.ofName (String.ofList kind.reverse), false⟩⟩
    | _ => ⟨fixed ++ [.ofName last], none⟩

end Signature

abbrev Table := OrderedMap String (List Signature)

namespace Table

private def comparing : List Signature := [⟨[.op, .comparator], none⟩]

private def comparingColumn : List Signature :=
  [⟨[.text, .text, .op, .comparator], none⟩,
   ⟨[.text, .text, .op, .comparator, .flag, .flag], none⟩]

def default : Table := ⟨[
  ("KeyOnlyFilter", [⟨[], none⟩, ⟨[.flag], none⟩]),
  ("FirstKeyOnlyFilter", [⟨[], none⟩]),
  ("PrefixFilter", [⟨[.text], none⟩]),
  ("ColumnPrefixFilter", [⟨[.text], none⟩]),
  ("MultipleColumnPrefixFilter", [⟨[], some ⟨.text, true⟩⟩]),
  ("ColumnCountGetFilter", [⟨[.number], none⟩]),
  ("PageFilter", [⟨[.number], none⟩]),
  ("ColumnPaginationFilter", [⟨[.number, .number], none⟩]),
  ("InclusiveStopFilter", [⟨[.text], none⟩]),
  ("TimestampsFilter", [⟨[], some ⟨.number, false⟩⟩]),
  ("RowFilter", comparing),
  ("FamilyFilter", comparing),
  ("QualifierFilter", comparing),
  ("ValueFilter", comparing),
  ("DependentColumnFilter", [⟨[.text, .text], none⟩, ⟨[.text, .text, .flag], none⟩,
    ⟨[.text, .text, .flag, .op, .comparator], none⟩]),
  ("SingleColumnValueFilter", comparingColumn),
  ("SingleColumnValueExcludeFilter", comparingColumn),
  ("ColumnRangeFilter", [⟨[.text, .flag, .text, .flag], none⟩])]⟩

def register (table : Table) (name : String) (signatures : List Signature) : Table :=
  table.insert name signatures

/-- The table of the usual functions and of others, one registered after the other. -/
def extending (custom : List (String × List Signature)) : Table :=
  custom.foldl (fun table function => table.register function.1 function.2) default

theorem extending_eq (custom : List (String × List Signature)) :
    extending custom = default.insertAll custom := rfl

end Table

/-- The lower case of a text, for words of ASCII letters without a k: no other character has one
of those letters as its lower case. -/
def lowerCase (cs : List Char) : List Char := cs.map Char.toLower

def flag? (cs : List Char) : Option Bool :=
  if lowerCase cs = ['t', 'r', 'u', 'e'] then some true
  else if lowerCase cs = ['f', 'a', 'l', 's', 'e'] then some false
  else none

def splitColon : List Char → Option (List Char × List Char)
  | [] => none
  | c :: rest =>
    if c = ':' then some ([], rest)
    else (splitColon rest).map fun (before, after) => (c :: before, after)

/-- The comparator that a string spells as `type:value`. A pattern comparator needs a test for
equality right before it. -/
def comparator (position : Nat) (cs : List Char) (previous : Option Arg) :
    Except Failure Comparator :=
  match splitColon cs with
  | none => reject (.comparatorForm cs) position
  | some (type, value) =>
    match ComparatorKind.ofName? (lowerCase type) with
    | none => reject (.unknownComparator type) position
    | some kind =>
      if kind.isPattern && previous != some (.op .equal) && previous != some (.op .notEqual) then
        reject (.patternOperator kind) position
      else .ok ⟨kind, Utf8.encode value⟩

/-- The argument of a kind that a token spells, after the argument `previous`. -/
def convert (kind : ArgKind) (t : Token) (previous : Option Arg) : Except Failure Arg :=
  match kind, t.kind with
  | .text, .string value => .ok (.text (Utf8.encode value))
  | .number, .number value =>
    if value < 0 then reject (.negativeNumber t.text) t.position else .ok (.number value)
  | .flag, .name => .ok (.flag (flag? t.text = some true))
  | .op, .op op => .ok (.op op)
  | .comparator, .string value => (comparator t.position value previous).map .comparator
  | kind, _ => reject (.wrongKind kind.name t.text) t.position

def convertAll : Option Arg → List ArgKind → List Token → Except Failure (List Arg)
  | previous, kind :: kinds, t :: ts => do
    let arg ← convert kind t previous
    let more ← convertAll (some arg) kinds ts
    return arg :: more
  | _, _, _ => .ok []

namespace Signature

private def positionOf (t : Option Token) : Nat := (t.map Token.position).getD 0

/-- Whether the last kind has no name, so that nobody can tell whether it repeats. -/
def endsNameless (s : Signature) : Bool := s.rest.isNone && s.fixed.getLast? = some (.other "")

def bind (s : Signature) (ts : List Token) : Except Failure (List Arg) :=
  match s.rest with
  | some r =>
    let least := if r.atLeastOnce then 1 else 0
    if ts.length < s.fixed.length + least then
      reject (.tooFewArguments (s.fixed.length + least)) (positionOf ts.getLast?)
    else
      convertAll none (s.fixed ++ List.replicate (ts.length - s.fixed.length) r.kind) ts
  | none =>
    if s.endsNameless then .error .namelessKind
    else if s.fixed.length ≠ ts.length then
      reject (.argumentCount s.fixed.length ts.length) (positionOf ts.head?)
    else convertAll none s.fixed ts

end Signature

/-- The arguments under the first signature that they match, if they match one. -/
def bindFirst : List Signature → List Token → Except Failure (Option (List Arg))
  | [], _ => .ok none
  | s :: rest, ts =>
    match s.bind ts with
    | .ok args => .ok (some args)
    | .error (.rejected _) => bindFirst rest ts
    | .error e => .error e

/-- The arguments of the filter that the token `name` names. Where there is one signature, its own
complaint is the reason. -/
def bindArguments (signatures : List Signature) (name : Token) (ts : List Token) :
    Except Failure (List Arg) :=
  match signatures with
  | [s] => s.bind ts
  | _ =>
    match bindFirst signatures ts with
    | .ok (some args) => .ok args
    | .ok none =>
      reject (.wrongArguments (String.ofList name.text) (signatures.map Signature.kindNames))
        name.position
    | .error e => .error e

end WideColumn.Filter
