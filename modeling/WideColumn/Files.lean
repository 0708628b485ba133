import WideColumn.Bytes.Utf8
import WideColumn.Text.Blank
import WideColumn.Text.Integer

/-!
The files and directories under the working directory. A path is followed part by part; what
lies outside the working directory does not exist, but for the directories above it.
-/
namespace WideColumn

abbrev PathNames := List String

structure Files where
  files : List (PathNames × Bytes) := []
  dirs : List PathNames := []
  deriving Inhabited

inductive FileError
  | missing (path : String)
  | directory (path : String)
  | notDirectory (path : String)
  | nameTooLong (path : String)
  | alreadyThere (path : String)
  | nullCharacter
  deriving DecidableEq, Repr

/-- A number and a text for what an operating system refuses, with the path in question. -/
def FileError.describe (number : Nat) (reason path : String) : String :=
  "[Errno " ++ String.ofList (Text.natural number) ++ "] " ++ reason ++ ": " ++
    String.ofList (Text.quoted path.toList)

def FileError.message : FileError → String
  | missing path => describe 2 "No such file or directory" path
  | directory path => describe 21 "Is a directory" path
  | notDirectory path => describe 20 "Not a directory" path
  | nameTooLong path => describe 36 "File name too long" path
  | alreadyThere path => describe 17 "File exists" path
  | nullCharacter => "embedded null byte"

namespace Files

def partsOf (path : String) : List String := (Text.splitOn '/' path.toList).map String.ofList

/-- Whether a part of a path stands for the place that has been reached. -/
def staysThere (part : String) : Bool := part = "" || part = "."

def namesOf (path : String) : PathNames := (partsOf path).filter (!staysThere ·)

def isAbsolute (path : String) : Bool := path.toList.head? = some '/'

def content? (t : Files) (names : PathNames) : Option Bytes :=
  (t.files.find? fun f => f.1 = names).map (·.2)

/-- A directory is one that is listed, one that holds a file or a directory, or the working
directory itself. -/
def isDirectory (t : Files) (names : PathNames) : Bool :=
  names.isEmpty || t.dirs.any (names.isPrefixOf ·) ||
    t.files.any fun f => f.1 ≠ names && names.isPrefixOf f.1

def longestName : Nat := 255

def longestPath : Nat := 4095

/-- Where a path leads. A directory outside the working directory has no names. -/
inductive Target
  | file (content : Bytes)
  | directory (names : Option PathNames)
  | throughFile
  | tooLong
  | nowhere

/-- Follows the parts of a path from a directory. Outside the working directory there are only the
directories above it, up to the topmost one. -/
def follow (t : Files) : Option PathNames → List String → Target
  | place, [] => .directory place
  | place, part :: rest =>
    if staysThere part then follow t place rest
    else if part = ".." then
      follow t (place.bind fun names => if names.isEmpty then none else some names.dropLast) rest
    else if longestName < part.utf8ByteSize then .tooLong
    else
      match place with
      | none => .nowhere
      | some names =>
        let here := names ++ [part]
        if t.isDirectory here then follow t (some here) rest
        else
          match t.content? here with
          | none => .nowhere
          | some content => if rest.isEmpty then .file content else .throughFile

def resolve (t : Files) (path : String) : Target :=
  if path.isEmpty then .nowhere
  else if longestPath < path.utf8ByteSize then .tooLong
  else t.follow (if isAbsolute path then none else some []) (partsOf path)

def isPath (path : String) : Bool := !path.toList.contains '\x00'

def doesExist (t : Files) (path : String) : Bool :=
  isPath path &&
    match t.resolve path with
    | .file _ | .directory _ => true
    | _ => false

def read (t : Files) (path : String) : Except FileError Bytes :=
  if !isPath path then .error .nullCharacter
  else
    match t.resolve path with
    | .file content => .ok content
    | .directory _ => .error (.directory path)
    | .throughFile => .error (.notDirectory path)
    | .tooLong => .error (.nameTooLong path)
    | .nowhere => .error (.missing path)

/-- Makes a directory of a name in the working directory, unless there is one. -/
def makeDirectory (t : Files) (name : String) : Except FileError Files :=
  if t.isDirectory [name] then .ok t
  else if (t.content? [name]).isSome then .error (.alreadyThere name)
  else .ok { t with dirs := [name] :: t.dirs }

def ofPaths (files : List (String × Bytes)) (dirs : List String) : Files :=
  ⟨files.map fun f => (namesOf f.1, f.2), dirs.map namesOf⟩

end Files
end WideColumn
