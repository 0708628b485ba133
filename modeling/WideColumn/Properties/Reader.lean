import WideColumn.OrderedMap
import WideColumn.Text.Blank

/-!
Property files. A line holds a key, a separator and a value; `#` and `!` start a comment, and a line
that ends in an odd number of backslashes goes on in the next one. A separator is an equals sign, a
colon or a blank that has no backslash before it.
-/
namespace WideColumn.Properties

open Text (isBlank trim trimLeft trimRight)

abbrev Entries := OrderedMap String String

def trailingBackslashes (line : List Char) : Nat := (line.reverse.takeWhile (· = '\\')).length

def isContinued (line : List Char) : Bool := trailingBackslashes line % 2 = 1

def isSeparator (c : Char) : Bool := c = '=' || c = ':' || isBlank c

/-- The parts of a line around its first separator, where `escaped` says whether a backslash
stands before the text. -/
def splitSeparator (escaped : Bool) : List Char → Option (List Char × Char × List Char)
  | [] => none
  | c :: rest =>
    if !escaped && isSeparator c then some ([], c, rest)
    else (splitSeparator (c = '\\') rest).map fun (key, s, value) => (c :: key, s, value)

/-- The value of an entry, read after its separator. A blank may be followed by one equals sign or
colon that belongs to the separator. -/
def readValue (separator : Char) (text : List Char) : List Char :=
  match trim text with
  | c :: rest => if isBlank separator && (c = '=' || c = ':') then trim rest else c :: rest
  | [] => []

/-- The key and the value that a line holds. Backslashes are left out of the key. -/
def readEntry (line : List Char) : String × String :=
  let (key, value) :=
    match splitSeparator false line with
    | some (key, separator, value) => (trim key, readValue separator value)
    | none => (line, [])
  (String.ofList (key.filter (· ≠ '\\')), String.ofList value)

def isSkipped (line : List Char) : Bool :=
  match line with
  | [] => true
  | c :: _ => c = '#' || c = '!'

/-- What has been read: the entries, and the beginning of an entry that goes on. -/
structure Reader where
  entries : Entries := ∅
  pending : List Char := []
  deriving DecidableEq, Repr

namespace Reader

def readLine (r : Reader) (raw : List Char) : Reader :=
  let line := if r.pending.isEmpty then trim raw else trimLeft raw
  if r.pending.isEmpty && isSkipped line then r
  else if isContinued line then { r with pending := r.pending ++ line.dropLast }
  else
    let (key, value) := readEntry (r.pending ++ line)
    ⟨r.entries.insert key value, []⟩

end Reader

def readAll (text : List Char) : Reader := (Text.lines text).foldl Reader.readLine {}

/-- The entries of a text. An entry that still goes on at its end is left out. -/
def parse (text : List Char) : Entries := (readAll text).entries

end WideColumn.Properties
