import WideColumn.Component.Catalogue

/-!
Components by their dotted paths. The settings of a service may name the component that opens its
connections and the one that opens its scans; a path is a module, a dot and a name in that module.
-/
namespace WideColumn.Component

/-- Why a path does not lead to a component, or why none can be made. A part that is missing is
shown with the module in front of it, where that one holds no modules. -/
inductive LoadError
  | noModulePart (path : String)
  | relative (moduleName : String)
  | noModule (name : String) (parent : Option String)
  | noMember (moduleName name : String)
  | noName (typeName : String)
  | notAKind (path role : String)
  | notARole
  | filledInRole
  | bareRole (path : String)
  | notMade (kind message : String)
  deriving DecidableEq, Repr

def shown (name : String) : String := String.ofList (Text.quoted name.toList)

def LoadError.message : LoadError → String
  | noModulePart path =>
    "Invalid full class path: " ++ path ++ ". Must contain module name."
  | relative moduleName =>
    "the 'package' argument is required to perform a relative import for " ++ shown moduleName
  | noModule name none => "No module named " ++ shown name
  | noModule name (some parent) =>
    "No module named " ++ shown name ++ "; " ++ shown parent ++ " is not a package"
  | noMember moduleName name => "Module '" ++ moduleName ++ "' has no class '" ++ name ++ "'"
  | noName typeName => "'" ++ typeName ++ "' object has no attribute '__name__'"
  | notAKind path role => path ++ " is not a " ++ role
  | notARole => "issubclass() arg 2 must be a class, a tuple of classes, or a union"
  | filledInRole => "Subscripted generics cannot be used with class and instance checks"
  | bareRole path => path ++ " cannot be used with issubclass()"
  | notMade _ message => message

def splitLastDot (path : String) : String × String :=
  let last := lastPart path
  (String.ofList (path.toList.take (path.length - last.length - 1)), last)

def commonMembers : List (String × Meaning) :=
  values "str" "__cached__ __doc__ __file__ __name__ __package__" ++
  values "dict" "__annotations__ __builtins__ __dict__" ++ values "ModuleSpec" "__spec__" ++
  values "SourceFileLoader" "__loader__" ++ [("__class__", .type "builtins.module")] ++
  named "__delattr__ __dir__ __eq__ __format__ __ge__ __getattribute__ __getstate__ __gt__ __hash__
    __init__ __init_subclass__ __le__ __lt__ __ne__ __new__ __reduce__ __reduce_ex__ __repr__
    __setattr__ __sizeof__ __str__ __subclasshook__"

namespace Module

def member? (m : Module) (name : String) : Option Meaning :=
  let own := m.members.lookup name <|> commonMembers.lookup name
  own <|> if m.isPackage && name = "__path__" then some (.value "list") else none

end Module

def module? (name : String) : Option Module := modules.find? (·.name = name)

/-- The module of a dotted name. The first part of the name that leads nowhere is the one that is
missing. A module may be known below one that holds no modules. -/
def findModule (parent : Option Module) (walked : String) :
    List String → Except LoadError (Option Module)
  | [] => .ok parent
  | part :: rest =>
    let name := if walked.isEmpty && parent.isNone then part else walked ++ "." ++ part
    match module? name with
    | some found => findModule (some found) name rest
    | none =>
      .error (.noModule name ((parent.filter (!·.isPackage)).map (·.name)))

def find (path : String) : Except LoadError Meaning :=
  let (moduleName, name) := splitLastDot path
  if moduleName.isEmpty || name.isEmpty then .error (.noModulePart path)
  else if moduleName.toList.head? = some '.' then .error (.relative moduleName)
  else do
    let parts := (Text.splitOn '.' moduleName.toList).map String.ofList
    match (← findModule none "" parts).bind (·.member? name) with
    | some meaning => return meaning
    | none => throw (.noMember moduleName name)

namespace Meaning

def name : Meaning → Except LoadError String
  | type path => .ok (lastPart path)
  | named name | form name _ => .ok name
  | value typeName => .error (.noName typeName)

end Meaning

def typeEntry (path : String) : TypeEntry :=
  (typeEntries.find? (·.path = path)).getD (libraryEntry path)

def ancestry : (steps : Nat) → String → List TypeEntry
  | 0, path => [typeEntry path]
  | steps + 1, path =>
    let entry := typeEntry path
    entry :: entry.bases.flatMap (ancestry steps)

def deepestAncestry : Nat := 8

/-- Whether every type is a kind of a type, whatever it is. -/
def isUniversal (path : String) : Bool := path = "builtins.object"

/-- Whether a type has a method, if it or one of its nearest ancestors says so, up to a number of
steps. -/
def decides? : (steps : Nat) → (path method : String) → Option Bool
  | 0, _, _ => none
  | steps + 1, path, method =>
    let entry := typeEntry path
    if entry.methods.contains method then some true
    else if entry.gaps.contains method then some false
    else entry.bases.findSome? fun base => decides? steps base method

/-- The method that types have unless they say otherwise. -/
def commonMethod : String := "__hash__"

def hasMethod (path method : String) : Bool :=
  (decides? deepestAncestry path method).getD (method = commonMethod)

/-- Whether a type is a kind of another one: that one is among its ancestors, or demands methods
that the type has. -/
def isKindOf (path role : String) : Bool :=
  isUniversal role || (ancestry deepestAncestry path).any (·.path = role) ||
    (typeEntry role).demands.any (·.all (hasMethod path))

def plays (path : String) : Meaning → Except LoadError Bool
  | .type role | .form _ (.kindsOf role) => .ok (isKindOf path role)
  | .form _ (.anyOf roles) => .ok (roles.any (isKindOf path))
  | .form _ .filledIn => .error .filledInRole
  | .form _ (.bare role) => .error (.bareRole role)
  | .named _ | .value _ => .error .notARole

def load (path : String) : Except LoadError String := do (← find path).name

def makeOf (path : String) : Except LoadError String :=
  match (typeEntry path).making.result (lastPart path) with
  | .ok typeName => .ok typeName
  | .error (kind, message) => .error (.notMade kind message)

def Meaning.makeAnything : Meaning → Except LoadError String
  | .type path => makeOf path
  | .value typeName => .error (.notMade "TypeError" ("'" ++ typeName ++ "' object is not callable"))
  | .named _ | .form .. => .error (.notMade "TypeError" "'module' object is not callable")

/-- The name of the component at a path, made for what another path leads to. Where that is nothing,
anything can be made. -/
def make (path role : String) : Except LoadError String := do
  let role ← find role
  if role = .value "NoneType" then (← find path).makeAnything
  else
    match ← find path with
    | .type found =>
      if ← plays found role then makeOf found else throw (.notAKind path (← role.name))
    | _ => throw (.notAKind path (← role.name))

end WideColumn.Component
