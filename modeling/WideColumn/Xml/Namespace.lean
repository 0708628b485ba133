import WideColumn.Xml.DocumentType.Basic

/-!
Namespaces. Attributes bind prefixes to namespaces for an element and all inside it; an expanded
name carries its namespace in braces.
-/
namespace WideColumn.Xml

/-- The namespaces that prefixes stand for, the innermost binding first. The empty prefix is the one
of names without one, and no namespace is the empty one. -/
abbrev Scope := List (List Char × List Char)

def xmlNamespace : List Char := "http://www.w3.org/XML/1998/namespace".toList

def bindingNamespace : List Char := "http://www.w3.org/2000/xmlns/".toList

namespace Scope

def initial : Scope := [("xml".toList, xmlNamespace)]

def boundBy? (name : List Char) : Option (List Char) :=
  match splitName name with
  | (none, name) => if name = "xmlns".toList then some [] else none
  | (some start, name) => if start = "xmlns".toList then some name else none

def bindingProblem? (start space : List Char) : Option Problem :=
  let bindsXml := start = "xml".toList
  if space.isEmpty && !start.isEmpty then some .undeclaredPrefix
  else if start = "xmlns".toList then some .reservedPrefixXmlns
  else if space.contains '\x7d' then some .syntaxError
  else if bindsXml && space ≠ xmlNamespace then some .reservedPrefixXml
  else if !bindsXml && (space = xmlNamespace || space = bindingNamespace) then
    some .reservedNamespace
  else none

def bind (scope : Scope) (start space : List Char) : Except Problem Scope :=
  match bindingProblem? start space with
  | some problem => .error problem
  | none => .ok ((start, space) :: scope)

def expand? (scope : Scope) (name : List Char) : Option (List Char × List Char) :=
  match splitName name with
  | (none, name) => some ([], name)
  | (some start, name) => (scope.lookup start).map (·, name)

def elementName? (scope : Scope) (name : List Char) : Option (List Char) :=
  match splitName name with
  | (none, name) => some (braced ((scope.lookup []).getD []) name)
  | (some start, name) => (scope.lookup start).map (braced · name)
where
  braced (space name : List Char) : List Char :=
    if space.isEmpty then name else '\x7b' :: space ++ '\x7d' :: name

end Scope

/-- What is known of the attributes of a tag: their names, the scope inside the element, and how
much was read for their values. -/
structure Attributes where
  names : List (List Char) := []
  scope : Scope
  account : Account
  deriving DecidableEq, Repr

namespace Attributes

def add (a : Attributes) (name value : List Char) : Except Problem Attributes := do
  let scope ←
    match Scope.boundBy? name with
    | none => pure a.scope
    | some start => a.scope.bind start value
  return { a with names := a.names ++ [name], scope }

def isText (declared : List DeclaredAttribute) (name : List Char) : Bool :=
  ((declared.find? (·.name = name)).map (·.isText)).getD true

/-- Adds the attributes of a tag that begins at a place, where `opened` are the entities whose text
the tag is a part of; `place` tells where a place in the tag is in the document. -/
def addAll (d : DocumentType) (e : Encoding) (declared : List DeclaredAttribute)
    (opened : List (List Char)) (place : Nat → Nat) (start : Nat) (a : Attributes) :
    List RawAttribute → Reading Attributes
  | [] => .ok a
  | raw :: more =>
    if a.names.contains raw.name then .fail .duplicateAttribute (place raw.nameLeft)
    else do
      let (value, account) ← (expandValue d opened ⟨start, raw.valueLeft, e⟩ a.account
        (isText declared raw.name) raw.value).mapError fun e => { e with left := place e.left }
      match { a with account }.add raw.name value with
      | .error problem => .fail problem (place start)
      | .ok a => addAll d e declared opened place start a more

def addDefaults (start : Nat) (a : Attributes) : List DeclaredAttribute → Reading Attributes
  | [] => .ok a
  | default :: more =>
    match default.value with
    | none => addDefaults start a more
    | some value =>
      if a.names.contains default.name then addDefaults start a more
      else
        match a.add default.name value with
        | .error problem => .fail problem start
        | .ok a => addDefaults start a more

/-- Checks that the prefixes of attributes are bound, and that no two attributes have the same
expanded name. -/
def check (start : Nat) (scope : Scope) (found : List (List Char × List Char)) :
    List (List Char) → Reading Unit
  | [] => .ok ()
  | name :: more =>
    if (Scope.boundBy? name).isSome || (splitName name).1.isNone then check start scope found more
    else
      match scope.expand? name with
      | none => .fail .unboundPrefix start
      | some expanded =>
        if found.contains expanded then .fail .duplicateAttribute start
        else check start scope (expanded :: found) more

end Attributes

/-- The expanded name of an element with a tag, and what is known of its attributes. -/
def openTag (d : DocumentType) (e : Encoding) (opened : List (List Char)) (place : Nat → Nat)
    (start : Nat) (outer : Scope) (account : Account) (tag : StartTag) :
    Reading (List Char × Attributes) := do
  let declared := d.attributesOf tag.name
  let a ← Attributes.addAll d e declared opened place start { scope := outer, account }
    tag.attributes
  let a ← Attributes.addDefaults (place start) a declared
  Attributes.check (place start) a.scope [] a.names
  match a.scope.elementName? tag.name with
  | none => .fail .unboundPrefix (place start)
  | some name => return (name, a)

end WideColumn.Xml
