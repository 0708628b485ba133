import WideColumn.Properties.Basic

/-!
The directories from which further modules are loaded. Properties name them; variables and the home
directory in a name are replaced, and dots are resolved in the name alone. Only directories below
the working directory are found.
-/
namespace WideColumn.Server

abbrev ModulePaths := List PathNames

namespace ModulePaths

def keyPattern : Properties.Pattern := .ofText "^external\\.module\\.path\\."

def isVariableChar (c : Char) : Bool := c.isAlphanum || c = '_'

/-- The variable at the start of what follows a dollar sign, with the number of characters that
name it. -/
def variableAt : List Char → Option (List Char × Nat)
  | '\x7b' :: rest =>
    let name := rest.takeWhile (· ≠ '\x7d')
    if name.length < rest.length then some (name, name.length + 2) else none
  | cs =>
    let name := cs.takeWhile isVariableChar
    if name.isEmpty then none else some (name, name.length)

/-- The text with its variables replaced, after `skip` characters of a variable. A variable that is
not set stays as it is written. -/
def expandAfter (environment : Environment) : (skip : Nat) → List Char → List Char
  | _, [] => []
  | skip + 1, _ :: rest => expandAfter environment skip rest
  | 0, c :: rest =>
    match if c = '$' then variableAt rest else none with
    | none => c :: expandAfter environment 0 rest
    | some (name, length) =>
      match environment (String.ofList name) with
      | some value => value.toList ++ expandAfter environment length rest
      | none => c :: rest.take length ++ expandAfter environment length rest

def expandVariables (environment : Environment) (cs : List Char) : List Char :=
  expandAfter environment 0 cs

def dropFinalSlashes (cs : List Char) : List Char := (cs.reverse.dropWhile (· = '/')).reverse

/-- The text with a tilde at its start replaced by the home directory, if that is known. Homes of
others are not. -/
def expandHome (environment : Environment) (cs : List Char) : List Char :=
  match cs, environment "HOME" with
  | '~' :: rest, some home =>
    if rest.head?.all (· = '/') then
      let path := dropFinalSlashes home.toList ++ rest
      if path.isEmpty then ['/'] else path
    else cs
  | _, _ => cs

/-- The place that names lead to from a place, where two dots lead up. There is no way up from the
working directory. -/
def walk : PathNames → PathNames → Option PathNames
  | at', [] => some at'
  | at', name :: rest =>
    if name = ".." then
      if at'.isEmpty then none else walk at'.dropLast rest
    else walk (at' ++ [name]) rest

def directory? (files : Files) (environment : Environment) (text : String) : Option PathNames :=
  let path := String.ofList (expandHome environment (expandVariables environment text.toList))
  if Files.isAbsolute path then none
  else (walk [] (Files.namesOf path)).filter files.isDirectory

/-- Adds directories, one after the other: those that are added, and all after that. What is there
already is not added again. -/
def add (known : ModulePaths) : List PathNames → List PathNames × ModulePaths
  | [] => ([], known)
  | path :: rest =>
    if known.contains path then add known rest
    else
      let (added, after) := add (path :: known) rest
      (path :: added, after)

def named (properties : Properties) (files : Files) (environment : Environment) :
    Except Mismatch (List PathNames) :=
  (properties.matching environment keyPattern).map
    (·.filterMap fun value => value.bind (directory? files environment))

def addNamed (known : ModulePaths) (properties : Properties) (files : Files)
    (environment : Environment) : Except Mismatch (List PathNames × ModulePaths) :=
  (named properties files environment).map (add known)

/-- Adds the directories that properties name a number of times: those that each time adds, and all
after that. -/
def addTimes (known : ModulePaths) (properties : Properties) (files : Files)
    (environment : Environment) : Nat → Except Mismatch (List (List PathNames) × ModulePaths)
  | 0 => .ok ([], known)
  | n + 1 => do
    let (added, known) ← addNamed known properties files environment
    let (more, after) ← addTimes known properties files environment n
    return (added :: more, after)

end ModulePaths
end WideColumn.Server
