/-!
Patterns that select keys. A pattern is made of characters, a dot for any character but a line
feed, sets of characters in brackets, and anchors for the start and the end of the key; a backslash
takes the next character as it is. A key is selected if the pattern matches anywhere in it.
-/
namespace WideColumn.Properties

inductive PatternItem
  | char (c : Char)
  | any
  | oneOf (cs : List Char)
  | atStart
  | atEnd
  deriving DecidableEq, Repr

abbrev Pattern := List PatternItem

namespace Pattern

/-- The parts that a text spells; an open bracket takes the characters up to the closing one. -/
def itemsAfter : (set : Option (List Char)) → (escaped : Bool) → List Char → Pattern
  | none, true, [] => [.char '\\']
  | _, _, [] => []
  | some cs, _, c :: rest =>
    if c = ']' then .oneOf cs.reverse :: itemsAfter none false rest
    else itemsAfter (some (c :: cs)) false rest
  | none, true, c :: rest => .char c :: itemsAfter none false rest
  | none, false, c :: rest =>
    match c with
    | '\\' => itemsAfter none true rest
    | '.' => .any :: itemsAfter none false rest
    | '^' => .atStart :: itemsAfter none false rest
    | '$' => .atEnd :: itemsAfter none false rest
    | '[' => itemsAfter (some []) false rest
    | c => .char c :: itemsAfter none false rest

def ofText (text : String) : Pattern := itemsAfter none false text.toList

def matchesHere (atStart : Bool) : Pattern → List Char → Bool
  | [], _ => true
  | .atStart :: items, cs => atStart && matchesHere atStart items cs
  | .atEnd :: items, cs => (cs = [] || cs = ['\n']) && matchesHere atStart items cs
  | _ :: _, [] => false
  | .char x :: items, c :: cs => c = x && matchesHere false items cs
  | .any :: items, c :: cs => c ≠ '\n' && matchesHere false items cs
  | .oneOf xs :: items, c :: cs => xs.contains c && matchesHere false items cs

def searchFrom (atStart : Bool) (p : Pattern) : List Char → Bool
  | [] => p.matchesHere atStart []
  | c :: cs => p.matchesHere atStart (c :: cs) || searchFrom false p cs

def search (p : Pattern) (text : String) : Bool := p.searchFrom true text.toList

end Pattern
end WideColumn.Properties
