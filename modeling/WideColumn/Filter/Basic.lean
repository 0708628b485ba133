import WideColumn.Bytes.Utf8

/-!
Filters: trees of predicates that a scan evaluates at the store. A leaf is a named predicate with
literal arguments, a list combines its children with one connective, and a wrapper applies `SKIP`
or `WHILE` to one child.
-/
namespace WideColumn.Filter

inductive CompareOp
  | less
  | lessOrEqual
  | equal
  | notEqual
  | greaterOrEqual
  | greater
  deriving DecidableEq, Repr

namespace CompareOp

def symbol : CompareOp → List Char
  | less => ['<']
  | lessOrEqual => ['<', '=']
  | equal => ['=']
  | notEqual => ['!', '=']
  | greaterOrEqual => ['>', '=']
  | greater => ['>']

def all : List CompareOp := [less, lessOrEqual, equal, notEqual, greaterOrEqual, greater]

def ofSymbol? (cs : List Char) : Option CompareOp := all.find? fun op => op.symbol = cs

end CompareOp

inductive ComparatorKind
  | binary
  | binaryPrefix
  | regexString
  | substring
  deriving DecidableEq, Repr

namespace ComparatorKind

def name : ComparatorKind → List Char
  | binary => ['b', 'i', 'n', 'a', 'r', 'y']
  | binaryPrefix => ['b', 'i', 'n', 'a', 'r', 'y', 'p', 'r', 'e', 'f', 'i', 'x']
  | regexString => ['r', 'e', 'g', 'e', 'x', 's', 't', 'r', 'i', 'n', 'g']
  | substring => ['s', 'u', 'b', 's', 't', 'r', 'i', 'n', 'g']

def all : List ComparatorKind := [binary, binaryPrefix, regexString, substring]

def ofName? (cs : List Char) : Option ComparatorKind := all.find? fun kind => kind.name = cs

/-- A pattern comparator can only tell whether a value matches. -/
def isPattern : ComparatorKind → Bool
  | binary | binaryPrefix => false
  | regexString | substring => true

end ComparatorKind

structure Comparator where
  kind : ComparatorKind
  value : Bytes
  deriving DecidableEq, Repr

inductive Arg
  | text (value : Bytes)
  | number (value : Int)
  | flag (value : Bool)
  | op (value : CompareOp)
  | comparator (value : Comparator)
  deriving DecidableEq, Repr

inductive Node
  | leaf (name : String) (args : List Arg)
  | list (operator : String) (children : List Node)
  | wrap (kind : String) (child : Node)
  deriving Repr

namespace Node

def isList : Node → Bool
  | list .. => true
  | _ => false

mutual
def same : Node → Node → Bool
  | leaf name args, leaf name' args' => name = name' && args = args'
  | list operator children, list operator' children' =>
    operator = operator' && sameAll children children'
  | wrap kind child, wrap kind' child' => kind = kind' && same child child'
  | _, _ => false

def sameAll : List Node → List Node → Bool
  | [], [] => true
  | node :: rest, node' :: rest' => same node node' && sameAll rest rest'
  | _, _ => false
end

end Node

/-- The words that combine filters. None of them names a filter. -/
def keywords : List String := ["AND", "OR", "SKIP", "WHILE"]

end WideColumn.Filter
