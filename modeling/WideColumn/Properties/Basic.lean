import WideColumn.Files
import WideColumn.Properties.Pattern
import WideColumn.Properties.Placeholder
import WideColumn.Properties.Reader
import WideColumn.Value.Display
import WideColumn.Value.Mismatch

/-!
Properties: the merged entries of property files over given defaults. Later files override earlier
ones. Placeholders are replaced when a value is looked up, not when it is read; a default that is no
text cannot be looked up.
-/
namespace WideColumn

inductive LoadError
  | file (error : FileError)
  | notUtf8
  deriving DecidableEq, Repr

/-- Property values by key. A key whose value is null counts as missing. -/
structure Properties where
  values : OrderedMap String Value := ∅

namespace Properties

instance : Inhabited Properties := ⟨{}⟩

def merge (p : Properties) (entries : Entries) : Properties :=
  ⟨p.values.update (entries.mapValues .text)⟩

/-- Loads a file. A file that does not exist is skipped. -/
def load (p : Properties) (files : Files) (path : String) : Except LoadError Properties :=
  if files.doesExist path then
    match files.read path with
    | .error e => .error (.file e)
    | .ok content =>
      match Utf8.decode? content with
      | none => .error .notUtf8
      | some text => .ok (p.merge (parse (Text.unifyBreaks text)))
  else .ok p

def ofFiles (files : Files) (paths : List String) (defaults : OrderedMap String Value) :
    Except LoadError Properties :=
  paths.foldlM (fun p path => p.load files path) ⟨defaults⟩

def set (p : Properties) (key : String) (value : Value) : Properties :=
  ⟨p.values.insert key (.text value.displayText)⟩

/-- Sets a key to the text of a value, if it has one. -/
def assign (p : Properties) (key : String) (value : Value) : Except Text.IntegerError Properties :=
  if value.hasText then .ok (p.set key value) else .error .unwritable

def keys (p : Properties) : List String := p.values.keys

/-- The text that may hold placeholders, unless the value is null. -/
def textOf? : Value → Except Mismatch (Option String)
  | .null => .ok none
  | .text s => .ok (some s)
  | .bytes _ => .error .textPattern
  | value => .error (.noPattern value.typeName)

def get? (p : Properties) (environment : Environment) (key : String) :
    Except Mismatch (Option String) :=
  (textOf? ((p.values.get? key).getD .null)).map (Option.map (expand environment))

def getInteger? (p : Properties) (environment : Environment) (key : String) :
    Except Mismatch (Option Int) :=
  (p.get? environment key).map fun value =>
    value.bind fun s => (Text.readInteger s.toList).toOption

def onWords : List String := ["true", "yes", "1", "on"]

/-- Whether the value of a key is one of the words for on, in any case and with blanks around it.
No letter outside ASCII has a letter of these words as its lower case. -/
def getSwitch? (p : Properties) (environment : Environment) (key : String) :
    Except Mismatch (Option Bool) :=
  (p.get? environment key).map (Option.map fun s =>
    onWords.contains (String.ofList ((Text.trim s.toList).map Char.toLower)))

/-- The values of the keys that a pattern selects, in the order of the keys. -/
def matching (p : Properties) (environment : Environment) (pattern : Pattern) :
    Except Mismatch (List (Option String)) :=
  ((p.keys.filter pattern.search).mergeSort fun a b => !(b < a)).mapM (p.get? environment)

/-- The properties whose keys start with a prefix, which is left out of the keys if asked. -/
def withPrefix (p : Properties) (environment : Environment) (start : String)
    (strip : Bool := true) : Except Mismatch (OrderedMap String (Option String)) := do
  let keys := p.keys.filter (start.toList.isPrefixOf ·.toList)
  let found ← keys.mapM fun key => do
    let name := if strip then String.ofList (key.toList.drop start.length) else key
    return (name, ← p.get? environment key)
  return .ofList found

end Properties
end WideColumn
