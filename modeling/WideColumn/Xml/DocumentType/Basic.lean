import WideColumn.Xml.Lexeme

/-!
What a document type makes known: entities, and defaults for attributes. Values of attributes are
read with it.
-/
namespace WideColumn.Xml

/-- What an entity stands for: a text that is read in its place, or something outside the document,
which may not be XML at all. -/
inductive EntityValue
  | text (cs : List Char)
  | external
  | binary
  deriving DecidableEq, Repr

/-- An attribute that a document type declares. Spaces do not count in the value of one that is not
declared as text. -/
structure DeclaredAttribute where
  name : List Char
  isText : Bool
  value : Option (List Char)
  deriving DecidableEq, Repr

/-- What is known from a document type. It may have parts outside the document, which are not read;
then what is not known need not be wrong, unless the document stands alone. Declarations after a
reference to such a part do not count. -/
structure DocumentType where
  entities : List (List Char × EntityValue) := []
  attributes : List (List Char × DeclaredAttribute) := []
  isStandalone : Bool := false
  hasForeignParts : Bool := false
  isComplete : Bool := true
  deriving DecidableEq, Repr

/-- A text that is read in the place of a reference: the entity, and what is left of its text. -/
structure Inclusion where
  entity : List Char
  rest : List Char
  deriving DecidableEq, Repr

/-- As many bytes may be read before those that come from references are compared with those of the
document. -/
def expansionLimit : Nat := 8388608

/-- How many bytes have been read: of the document itself, and of texts in the place of
references. -/
structure Account where
  own : Nat
  expanded : Nat := 0
  deriving DecidableEq, Repr

namespace Account

/-- Whether references have led to so much text that the document must be an attack. -/
def isExcessive (a : Account) : Bool :=
  expansionLimit ≤ a.own + a.expanded && 100 * a.own < a.own + a.expanded

def read (a : Account) (size : Nat) : Account := { a with own := a.own + size }

def expand (a : Account) (size : Nat) : Account := { a with expanded := a.expanded + size }

end Account

namespace DocumentType

def knowsAllEntities (d : DocumentType) : Bool := !d.hasForeignParts || d.isStandalone

/-- Declares an entity. The first declaration of a name counts. -/
def addEntity (d : DocumentType) (name : List Char) (value : EntityValue) : DocumentType :=
  if (d.entities.lookup name).isSome then d
  else { d with entities := d.entities ++ [(name, value)] }

def attributesOf (d : DocumentType) (element : List Char) : List DeclaredAttribute :=
  (d.attributes.filter (·.1 = element)).map (·.2)

/-- Declares an attribute of an element. The first declaration that gives a default or an identifier
counts. -/
def addAttribute (d : DocumentType) (element : List Char) (isIdentifier : Bool)
    (a : DeclaredAttribute) : DocumentType :=
  let isKnown := (d.attributesOf element).any (·.name = a.name)
  if isKnown && (isIdentifier || a.value.isSome) then d
  else { d with attributes := d.attributes ++ [(element, a)] }

end DocumentType

/-- Where a value stands: the characters left at the beginning of the tag or the literal that it
belongs to, and those left after it; and how the value is written. -/
structure ValuePlace where
  start : Nat
  after : Nat
  encoding : Encoding := .utf8

/-- Replaces the references in the value of an attribute, where `opened` are the entities whose text
the attribute is a part of. The text that is being read stands first; what has been read is kept in
reverse. Only what is read of the texts of entities is accounted for. -/
def expandFrom (d : DocumentType) (opened : List (List Char)) (place : ValuePlace) :
    (fuel : Nat) → List Inclusion → Account → List Char → Reading (List Char × Account)
  | 0, _, _, _ => .fail .amplified place.start
  | _, [], account, done => .ok (done.reverse, account)
  | fuel + 1, ⟨_, []⟩ :: outer, account, done => expandFrom d opened place fuel outer account done
  | fuel + 1, ⟨name, c :: rest⟩ :: outer, account, done =>
    let encoding := if outer.isEmpty then place.encoding else .utf8
    let left := fun n => if outer.isEmpty then n + place.after else place.start
    let here := fun (_ : Unit) => left (rest.length + 1)
    let go := fun (token after : List Char) (more : List Inclusion) (done : List Char) =>
      let account := if outer.isEmpty then account else account.expand (encoding.sizeOf token)
      if account.isExcessive then .fail .amplified place.start
      else expandFrom d opened place fuel (more ++ ⟨name, after⟩ :: outer) account done
    let token := fun (after : List Char) => c :: rest.take (rest.length - after.length)
    if c = '<' then .fail .invalidToken (here ())
    else if c = '&' then
      match reference encoding rest with
      | .error (.invalid n) => .fail .invalidToken (left n)
      | .error .ended | .error .cut => .fail .invalidToken (here ())
      | .ok (.char none, _) => .fail .badCharacterNumber (here ())
      | .ok (.char (some c), after) => go (token after) after [] (c :: done)
      | .ok (.entity e, after) =>
        match standardEntities.lookup e with
        | some c => go (token after) after [] (c :: done)
        | none =>
          match d.entities.lookup e with
          | none =>
            if d.knowsAllEntities then .fail .undefinedEntity place.start
            else go (token after) after [] done
          | some value =>
            if opened.contains e || name = e || outer.any (·.entity = e) then
              .fail .recursiveEntity (here ())
            else
              match value with
              | .binary => .fail .binaryEntity (here ())
              | .external => .fail .externalEntity (here ())
              | .text cs => go (token after) after [⟨e, cs⟩] done
    else if c = '\r' && rest.head? = some '\n' then go ['\r', '\n'] (rest.drop 1) [] (' ' :: done)
    else go [c] rest [] ((if isSpace c then ' ' else c) :: done)

def collapseSpaces (cs : List Char) : List Char :=
  let drop := fun (c : Char) (rest : List Char) =>
    if c = ' ' && (rest.isEmpty || rest.head? = some ' ') then rest else c :: rest
  (cs.foldr drop []).dropWhile (· = ' ')

def expandValue (d : DocumentType) (opened : List (List Char)) (place : ValuePlace)
    (account : Account) (isText : Bool) (raw : List Char) : Reading (List Char × Account) := do
  let fuel := 2 * (raw.length + expansionLimit + 100 * account.own) + 1
  let (value, account) ← expandFrom d opened place fuel [⟨[], raw⟩] account []
  return (if isText then value else collapseSpaces value, account)

/-- The text of an entity from the literal that declares it, after `skip` characters of a
reference. References to characters are replaced, and those to entities are kept; parameter entities
have no place here. All line breaks are alike. The number of characters after the text is given. -/
def entityTextAfter (e : Encoding) (after : Nat) : (skip : Nat) → List Char → Reading (List Char)
  | _, [] => .ok []
  | skip + 1, _ :: rest => entityTextAfter e after skip rest
  | 0, '%' :: rest =>
    match percent e rest with
    | .ok (.reference, _) => .fail .parameterReference (rest.length + 1 + after)
    | .ok (.sign, _) => .fail .invalidToken (rest.length + after)
    | .error (.invalid n) => .fail .invalidToken (n + after)
    | .error .ended | .error .cut => .fail .invalidToken (rest.length + 1 + after)
  | 0, '&' :: rest =>
    match reference e rest with
    | .error (.invalid n) => .fail .invalidToken (n + after)
    | .error .ended | .error .cut => .fail .invalidToken (rest.length + 1 + after)
    | .ok (.char none, _) => .fail .badCharacterNumber (rest.length + 1 + after)
    | .ok (.char (some c), end') =>
      (entityTextAfter e after (rest.length - end'.length) rest).map (c :: ·)
    | .ok (.entity _, _) => (entityTextAfter e after 0 rest).map ('&' :: ·)
  | 0, '\r' :: rest =>
    let skip := if rest.head? = some '\n' then 1 else 0
    (entityTextAfter e after skip rest).map ('\n' :: ·)
  | 0, c :: rest => (entityTextAfter e after 0 rest).map (c :: ·)

def entityText (e : Encoding) (after : Nat) (literal : List Char) : Reading (List Char) :=
  entityTextAfter e after 0 literal

end WideColumn.Xml
