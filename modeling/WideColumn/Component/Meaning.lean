import WideColumn.Files

/-!
What the names of modules stand for. Most names stand for types, which may be made and may be kinds
of one another; other names stand for something that has a name, and for plain values.
-/
namespace WideColumn.Component

/-- A form of types, which is no type itself: one of several types, the kinds of a type, a form with
its parts filled in, or a form that says nothing without its parts. -/
inductive Form
  | anyOf (paths : List String)
  | kindsOf (path : String)
  | filledIn
  | bare (path : String)
  deriving DecidableEq, Repr

/-- What a name of a module stands for: a type, by its path; something else that has a name; a form
of types; or a value without a name, by the name of its type. -/
inductive Meaning
  | type (path : String)
  | named (name : String)
  | form (name : String) (form : Form)
  | value (typeName : String)
  deriving DecidableEq, Repr

/-- A module: its dotted name, whether it holds other modules, and its members. -/
structure Module where
  name : String
  isPackage : Bool := false
  members : List (String × Meaning)
  deriving Repr

/-- What comes of making something of a type without saying more. What is made may be of a type with
another name. -/
inductive Making
  | made
  | madeAs (typeName : String)
  | lacksArguments (maker : String) (arguments : List String)
  | isAbstract (methods : List String)
  | refused (message : String)
  | failed (kind message : String)
  deriving DecidableEq, Repr

/-- A type: its path, the types that it is a kind of, its methods as far as somebody asks for them,
the methods that it does not have though these types may, the methods that make every type a kind of
it, in any of several ways, and what comes of making one. -/
structure TypeEntry where
  path : String
  bases : List String := []
  methods : List String := []
  gaps : List String := []
  demands : List (List String) := []
  making : Making := .made
  deriving Repr

def words (text : String) : List String :=
  let spaced := text.toList.map fun c => if c = '\n' then ' ' else c
  ((Text.splitOn ' ' spaced).filter (!·.isEmpty)).map String.ofList

def types (home names : String) : List (String × Meaning) :=
  (words names).map fun name => (name, .type (home ++ "." ++ name))

def named (names : String) : List (String × Meaning) :=
  (words names).map fun name => (name, .named name)

def values (typeName names : String) : List (String × Meaning) :=
  (words names).map fun name => (name, .value typeName)

/-- Modules that hang below a module. -/
def parts (home names : String) : List (String × Meaning) :=
  (words names).map fun name => (name, .named (home ++ "." ++ name))

/-- The types of a base. -/
def kinds (home base names : String) : List TypeEntry :=
  (words names).map fun name => { path := home ++ "." ++ name, bases := [base] }

def lastPart (path : String) : String :=
  String.ofList ((path.toList.reverse.takeWhile (· ≠ '.')).reverse)

def withArguments (home name arguments : String) (bases : List String := []) : TypeEntry :=
  { path := home ++ "." ++ name, bases, making := .lacksArguments name (words arguments) }

namespace Making

def enumerate : List String → String
  | [] => ""
  | [a] => "'" ++ a ++ "'"
  | [a, b] => "'" ++ a ++ "' and '" ++ b ++ "'"
  | names =>
    ", ".intercalate (names.dropLast.map fun name => "'" ++ name ++ "'") ++
      (names.getLast?.map fun name => ", and '" ++ name ++ "'").getD ""

/-- The name of the type of what is made, or the kind and the message of the fault. -/
def result (typeName : String) : Making → Except (String × String) String
  | made => .ok typeName
  | madeAs typeName => .ok typeName
  | lacksArguments maker arguments =>
    .error ("TypeError", maker ++ ".__init__() missing " ++
      String.ofList (Text.natural arguments.length) ++ " required positional argument" ++
      (if arguments.length = 1 then "" else "s") ++ ": " ++ enumerate arguments)
  | isAbstract methods =>
    .error ("TypeError", "Can't instantiate abstract class " ++ typeName ++
      " with abstract method" ++ (if methods.length = 1 then " " else "s ") ++
      ", ".intercalate methods)
  | refused message => .error ("TypeError", message)
  | failed kind message => .error (kind, message)

end Making
end WideColumn.Component
