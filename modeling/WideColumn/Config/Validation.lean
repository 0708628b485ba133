import WideColumn.OrderedMap
import WideColumn.Files
import WideColumn.Value.Display
import WideColumn.Value.Items

/-!
Which connection settings can be used. A configuration is usable when it names at least one site
configuration file, or when all three coordination settings are given. Nothing is opened to tell,
but the texts of the settings are needed; where one of them is missing, there is no verdict.
-/
namespace WideColumn

/-- What is read of a configured value, of whatever kind: whether it is null, its items where it is
a list or a tuple, and its text, unless it has none. -/
class Configured (α : Type) where
  isNull : α → Bool
  items? : α → Option (List α)
  shown : α → Except Text.IntegerError (List Char)

instance : Configured Value where
  isNull := Value.isNull
  items?
    | .list items => some items
    | _ => none
  shown := Value.shown

abbrev Settings := OrderedMap String Value

/-- Settings together with the first key, if there is one, that is no text and so names none. -/
structure GivenSettings where
  named : Settings
  strayKey : Option Value := none

namespace GivenSettings

def setting? : Value × Value → Option (String × Value)
  | (.text name, value) => some (name, value)
  | _ => none

def ofEntries (entries : List (Value × Value)) : GivenSettings where
  named := .ofList (entries.filterMap setting?)
  strayKey := (entries.find? fun e => (setting? e).isNone).map (·.1)

/-- The settings that a value holds. A value that is not set holds none. -/
def ofValue (value : Value) : Except Mismatch GivenSettings :=
  if value.isSet then value.entries.map ofEntries else .ok ⟨∅, none⟩

end GivenSettings

namespace Config

open Configured (isNull items? shown)

variable {α : Type} [Configured α]

def confFilesKey : String := "confFiles"
def quorumKey : String := "zkQuorum"
def clientPortKey : String := "zkClientPort"
def znodeParentKey : String := "zkZnodeParent"

def coordinationKeys : List String := [quorumKey, clientPortKey, znodeParentKey]

/-- The text of a value without the blanks around it, unless nothing is left of it. -/
def visible? (value : α) : Except Text.IntegerError (Option String) :=
  if isNull value then .ok none
  else (shown value).map fun cs =>
    if Text.isBlankText cs then none else some (String.ofList (Text.trim cs))

def visibleAt? (settings : OrderedMap String α) (key : String) :
    Except Text.IntegerError (Option String) :=
  match settings.get? key with
  | none => .ok none
  | some value => visible? value

/-- The parts of a text between commas, without the blanks around them. -/
def parts (cs : List Char) : List String :=
  (((Text.splitOn ',' cs).map Text.trim).filter (!·.isEmpty)).map String.ofList

/-- The paths that a value lists: the items of a list or a tuple, or a text with commas between
them. -/
def listedPaths (value : α) : Except Text.IntegerError (List String) :=
  if isNull value then .ok []
  else
    match items? value with
    | some items => items.filterMapM visible?
    | none => (shown value).map parts

def confPaths (settings : OrderedMap String α) : Except Text.IntegerError (List String) :=
  match settings.get? confFilesKey with
  | none => .ok []
  | some value => listedPaths value

/-- The paths of the conf files, as far as they have texts. -/
def confFilesOf (settings : OrderedMap String α) : List String :=
  (confPaths settings).toOption.getD []

inductive Invalid
  | nothingSet
  | incomplete (missing : List String)
  deriving DecidableEq, Repr

def Invalid.reason : Invalid → String
  | nothingSet =>
    "Either " ++ confFilesKey ++ " or all of " ++ ", ".intercalate coordinationKeys ++
      " must be specified"
  | incomplete missing =>
    ", ".intercalate coordinationKeys ++ " must be specified together when " ++ confFilesKey ++
      " is not set; missing: " ++ ", ".intercalate missing

/-- What validation says of settings. -/
abbrev Verdict := Except Invalid Unit

def Verdict.reason? : Verdict → Option String
  | .ok () => none
  | .error invalid => some invalid.reason

/-- The verdict over the coordination settings, of which some may be missing. -/
def Verdict.ofMissing (missing : List String) : Verdict :=
  if missing.length = coordinationKeys.length then .error .nothingSet
  else if missing.isEmpty then .ok ()
  else .error (.incomplete missing)

def missingAt? (settings : OrderedMap String α) (key : String) :
    Except Text.IntegerError (Option String) :=
  (visibleAt? settings key).map fun text => if text.isSome then none else some key

def validate (settings : OrderedMap String α) : Except Text.IntegerError Verdict := do
  let paths ← confPaths settings
  if !paths.isEmpty then return .ok ()
  return .ofMissing (← coordinationKeys.filterMapM (missingAt? settings))

def isValid (settings : OrderedMap String α) : Bool :=
  match validate settings with
  | .ok verdict => verdict.toBool
  | .error _ => false

def invalidReason? (settings : OrderedMap String α) : Option String :=
  (validate settings).toOption.bind Verdict.reason?

end Config
end WideColumn
