import WideColumn.Xml.DocumentType.Basic
import WideColumn.Xml.DocumentType.Token

/-!
The grammar of what stands before the first tag, as a machine over tokens. Each kind of declaration
has its parts, and a part says which tokens may come next. Declarations of elements and of formats
are checked and forgotten; those of entities and attributes are noted.
-/
namespace WideColumn.Xml

inductive TypePart
  | name
  | identifier
  | publicIdentifier
  | systemIdentifier
  | subset
  | finish
  deriving DecidableEq, Repr

inductive EntityPart
  | name
  | parameterName
  | value
  | publicIdentifier
  | systemIdentifier
  | finish
  | format
  deriving DecidableEq, Repr

/-- The declaration of an entity up to some part. A declaration that does not count has no name. -/
structure EntityDeclaration where
  part : EntityPart := .name
  name : Option (List Char) := none
  isParameter : Bool := false
  deriving DecidableEq, Repr

inductive FormatPart
  | name
  | identifier
  | publicIdentifier
  | systemIdentifier
  | finish
  deriving DecidableEq, Repr

inductive AttributePart
  | element
  | name
  | type
  | choice
  | choiceRest
  | formats
  | format
  | formatRest
  | default
  | fixedDefault
  deriving DecidableEq, Repr

structure AttributeDeclaration where
  part : AttributePart := .element
  element : List Char := []
  name : List Char := []
  isText : Bool := false
  isIdentifier : Bool := false
  deriving DecidableEq, Repr

inductive ContentPart
  | name
  | model
  | first
  | textRest
  | mixedName
  | mixedRest
  | item
  | rest
  deriving DecidableEq, Repr

/-- The declaration of an element up to some part. The sign between the items of every open group is
known once there is one. -/
structure ContentDeclaration where
  part : ContentPart := .name
  groups : List (Option Char) := []
  deriving DecidableEq, Repr

inductive Expected
  | anything (hasType : Bool)
  | type (part : TypePart)
  | declarations
  | entity (declaration : EntityDeclaration)
  | format (part : FormatPart)
  | attributeList (declaration : AttributeDeclaration)
  | content (declaration : ContentDeclaration)
  | finish
  deriving DecidableEq, Repr

/-- What has been read before the first tag: the document type, how much was read, and what comes
next. -/
structure Prolog where
  form : TextForm
  type : DocumentType
  account : Account
  expected : Expected := .anything false
  deriving DecidableEq, Repr

/-- A token with its place: the characters left at its beginning and after it. It may have taken in
half a character at the end of the document. -/
structure PlacedToken where
  token : TypeToken
  start : Nat
  after : Nat
  hasHalf : Bool := false
  deriving DecidableEq, Repr

namespace PlacedToken

def refuse {α : Type} (t : PlacedToken) : Reading α :=
  match t.token with
  | .parameter => .fail .parameterReference t.start
  | .xmlDeclaration => .fail .misplacedDeclaration t.start
  | _ => .fail .syntaxError t.start

/-- The characters that a public identifier may hold, besides letters and digits. -/
def publicSigns : List Char := "-_.'()+,/=?;!*%#:$@ \n\r".toList

def checkPublic (t : PlacedToken) (cs : List Char) : Reading Unit :=
  match cs.dropWhile fun c => c.isAlphanum || publicSigns.contains c with
  | [] => .ok ()
  | bad => .fail .badPublicIdentifier (bad.length + 1 + t.after)

/-- Checks that a literal whose references are replaced ends in a whole character. -/
def checkWhole (t : PlacedToken) : Reading Unit :=
  if t.hasHalf then .fail .invalidToken (t.after + 1) else .ok ()

end PlacedToken

namespace Prolog

def expect (p : Prolog) (expected : Expected) : Prolog := { p with expected }

def readType (p : Prolog) (part : TypePart) (t : PlacedToken) : Reading Prolog :=
  let foreign := { p with type := { p.type with hasForeignParts := true } }
  match part, t.token with
  | .name, .word .plain _ | .name, .word .qualified _ => .ok (p.expect (.type .identifier))
  | .identifier, .word .plain cs =>
    if cs = "SYSTEM".toList then .ok (p.expect (.type .systemIdentifier))
    else if cs = "PUBLIC".toList then .ok (p.expect (.type .publicIdentifier))
    else t.refuse
  | .publicIdentifier, .literal cs => do
    t.checkPublic cs
    return foreign.expect (.type .systemIdentifier)
  | .systemIdentifier, .literal _ => .ok (foreign.expect (.type .subset))
  | .identifier, .subsetStart | .subset, .subsetStart => .ok (p.expect .declarations)
  | .identifier, .finish | .subset, .finish | .finish, .finish => .ok (p.expect (.anything true))
  | _, _ => t.refuse

/-- The name under which an entity is noted, if its declaration counts. -/
def countedName (p : Prolog) (name : List Char) : Option (List Char) :=
  if p.type.isComplete && (standardEntities.lookup name).isNone &&
      (p.type.entities.lookup name).isNone then some name
  else none

def noteEntity (p : Prolog) (name : Option (List Char)) (value : EntityValue) : Prolog :=
  match name with
  | none => p
  | some name => { p with type := p.type.addEntity name value }

def readEntity (p : Prolog) (d : EntityDeclaration) (t : PlacedToken) : Reading Prolog :=
  let next := fun (d : EntityDeclaration) => Except.ok (p.expect (.entity d))
  match d.part, t.token with
  | .name, .percent => next { d with part := .parameterName, isParameter := true }
  | .name, .word .plain cs => next { d with part := .value, name := p.countedName cs }
  | .parameterName, .word .plain _ => next { d with part := .value }
  | .value, .word .plain cs =>
    if cs = "SYSTEM".toList then next { d with part := .systemIdentifier }
    else if cs = "PUBLIC".toList then next { d with part := .publicIdentifier }
    else t.refuse
  | .value, .literal cs =>
    if p.type.isComplete then do
      let text ← entityText p.form.encoding (t.after + 1) cs
      t.checkWhole
      return (p.noteEntity d.name (.text text)).expect .finish
    else .ok (p.expect .finish)
  | .publicIdentifier, .literal cs => do
    t.checkPublic cs
    next { d with part := .systemIdentifier }
  | .systemIdentifier, .literal _ => next { d with part := .finish }
  | .finish, .finish => .ok ((p.noteEntity d.name .external).expect .declarations)
  | .finish, .word .plain cs =>
    if !d.isParameter && cs = "NDATA".toList then next { d with part := .format } else t.refuse
  | .format, .word .plain _ => .ok ((p.noteEntity d.name .binary).expect .finish)
  | _, _ => t.refuse

def readFormat (p : Prolog) (part : FormatPart) (t : PlacedToken) : Reading Prolog :=
  match part, t.token with
  | .name, .word .plain _ => .ok (p.expect (.format .identifier))
  | .identifier, .word .plain cs =>
    if cs = "SYSTEM".toList then .ok (p.expect (.format .systemIdentifier))
    else if cs = "PUBLIC".toList then .ok (p.expect (.format .publicIdentifier))
    else t.refuse
  | .publicIdentifier, .literal cs => do
    t.checkPublic cs
    return p.expect (.format .finish)
  | .systemIdentifier, .literal _ | .finish, .literal _ => .ok (p.expect .finish)
  | .finish, .finish => .ok (p.expect .declarations)
  | _, _ => t.refuse

/-- The types of attributes whose values are words. -/
def wordTypes : List (List Char) :=
  ["IDREF".toList, "IDREFS".toList, "ENTITY".toList, "ENTITIES".toList, "NMTOKEN".toList,
   "NMTOKENS".toList]

/-- Notes an attribute with its default, if the declaration counts. -/
def noteAttribute (p : Prolog) (d : AttributeDeclaration) (isIdentifier : Bool)
    (value : Option (List Char)) : Prolog :=
  if p.type.isComplete then
    { p with type := p.type.addAttribute d.element isIdentifier ⟨d.name, d.isText, value⟩ }
  else p

def readAttribute (p : Prolog) (d : AttributeDeclaration) (t : PlacedToken) : Reading Prolog :=
  let next := fun (p : Prolog) (d : AttributeDeclaration) => Except.ok (p.expect (.attributeList d))
  let default := fun (cs : List Char) => do
    if p.type.isComplete then
      let place := ⟨t.start, t.after + 1, p.form.encoding⟩
      let (value, account) ← expandValue p.type [] place p.account d.isText cs
      t.checkWhole
      next ({ p with account }.noteAttribute d false (some value)) { d with part := .name }
    else next p { d with part := .name }
  match d.part, t.token with
  | .element, .word .plain cs | .element, .word .qualified cs =>
    next p { d with part := .name, element := cs }
  | .name, .finish => .ok (p.expect .declarations)
  | .name, .word .plain cs | .name, .word .qualified cs =>
    next p { d with part := .type, name := cs, isText := false, isIdentifier := false }
  | .type, .word .plain cs =>
    if cs = "CDATA".toList then next p { d with part := .default, isText := true }
    else if cs = "ID".toList then next p { d with part := .default, isIdentifier := true }
    else if wordTypes.contains cs then next p { d with part := .default }
    else if cs = "NOTATION".toList then next p { d with part := .formats }
    else t.refuse
  | .type, .groupStart => next p { d with part := .choice }
  | .choice, .word _ _ => next p { d with part := .choiceRest }
  | .choiceRest, .bar => next p { d with part := .choice }
  | .formats, .groupStart | .formatRest, .bar => next p { d with part := .format }
  | .format, .word .plain _ => next p { d with part := .formatRest }
  | .choiceRest, .groupEnd none | .formatRest, .groupEnd none => next p { d with part := .default }
  | .default, .hashName cs =>
    if cs = "IMPLIED".toList || cs = "REQUIRED".toList then
      next (p.noteAttribute d d.isIdentifier none) { d with part := .name }
    else if cs = "FIXED".toList then next p { d with part := .fixedDefault }
    else t.refuse
  | .default, .literal cs | .fixedDefault, .literal cs => default cs
  | _, _ => t.refuse

/-- The declaration after one more sign between the items of its innermost group. The signs of one
group are the same. -/
def joinItems (d : ContentDeclaration) (sign : Char) : Option ContentDeclaration :=
  match d.groups with
  | [] => none
  | known :: outer =>
    if known.all (· = sign) then some ⟨.item, some sign :: outer⟩ else none

def readContent (p : Prolog) (d : ContentDeclaration) (t : PlacedToken) : Reading Prolog :=
  let next := fun (d : ContentDeclaration) => Except.ok (p.expect (.content d))
  let join := fun (sign : Char) =>
    match joinItems d sign with
    | some d => next d
    | none => t.refuse
  match d.part, t.token with
  | .name, .word .plain _ | .name, .word .qualified _ => next { d with part := .model }
  | .model, .word .plain cs =>
    if cs = "EMPTY".toList || cs = "ANY".toList then .ok (p.expect .finish) else t.refuse
  | .model, .groupStart => next ⟨.first, [none]⟩
  | .first, .hashName cs =>
    if cs = "PCDATA".toList then next { d with part := .textRest } else t.refuse
  | .textRest, .groupEnd none | .textRest, .groupEnd (some '*')
  | .mixedRest, .groupEnd (some '*') =>
    .ok (p.expect .finish)
  | .textRest, .bar | .mixedRest, .bar => next { d with part := .mixedName }
  | .mixedName, .word .plain _ | .mixedName, .word .qualified _ =>
    next { d with part := .mixedRest }
  | .first, .groupStart | .item, .groupStart => next ⟨.item, none :: d.groups⟩
  | .first, .word .plain _ | .first, .word .qualified _ | .first, .repeatedName
  | .item, .word .plain _ | .item, .word .qualified _ | .item, .repeatedName =>
    next { d with part := .rest }
  | .rest, .groupEnd _ =>
    match d.groups with
    | _ :: outer :: more => next ⟨.rest, outer :: more⟩
    | _ => .ok (p.expect .finish)
  | .rest, .comma => join ','
  | .rest, .bar => join '|'
  | _, _ => t.refuse

def readKeyword (p : Prolog) (keyword : List Char) (t : PlacedToken) : Reading Prolog :=
  if keyword = "ENTITY".toList then .ok (p.expect (.entity {}))
  else if keyword = "ATTLIST".toList then .ok (p.expect (.attributeList {}))
  else if keyword = "ELEMENT".toList then .ok (p.expect (.content {}))
  else if keyword = "NOTATION".toList then .ok (p.expect (.format .name))
  else t.refuse

def step (p : Prolog) (t : PlacedToken) : Reading Prolog :=
  match p.expected, t.token with
  | _, .space => .ok p
  | .anything _, .comment | .anything _, .instruction
  | .declarations, .comment | .declarations, .instruction => .ok p
  | .anything false, .declaration keyword =>
    if keyword = "DOCTYPE".toList then .ok (p.expect (.type .name)) else t.refuse
  | .type part, _ => p.readType part t
  | .declarations, .declaration keyword => p.readKeyword keyword t
  | .declarations, .parameter =>
    let type := { p.type with hasForeignParts := true, isComplete := p.type.isStandalone }
    .ok { p with type }
  | .declarations, .subsetEnd => .ok (p.expect (.type .finish))
  | .entity d, _ => p.readEntity d t
  | .format part, _ => p.readFormat part t
  | .attributeList d, _ => p.readAttribute d t
  | .content d, _ => p.readContent d t
  | .finish, .finish => .ok (p.expect .declarations)
  | _, _ => t.refuse

def pass (p : Prolog) (token : List Char) (left : Nat) : Reading Prolog :=
  let account := p.account.read (p.form.encoding.sizeOf token)
  if account.isExcessive then .fail .amplified left else .ok { p with account }

def read (p : Prolog) : (fuel : Nat) → List Char → Reading (Prolog × List Char)
  | 0, _ | _, [] => .fail p.form.endProblem 0
  | fuel + 1, c :: cs =>
    let start := cs.length + 1
    match TypeToken.read p.form.encoding (c :: cs) with
    | .error e => .error (e.failure start)
    | .ok (token, rest) =>
      match p.expected, token with
      | .anything _, .element => .ok (p, rest)
      | _, _ =>
        let after := rest.length
        match p.pass ((c :: cs).take (start - after)) start with
        | .error e => .error e
        | .ok p =>
          match if rest.isEmpty && p.form.endsInHalf then token.withHalf? else none with
          | some token => do
            let _ ← p.step ⟨token, start, after, true⟩
            .fail .noElement 0
          | none =>
            match p.step ⟨token, start, after, false⟩ with
            | .error e => .error e
            | .ok p => read p fuel rest

end Prolog
end WideColumn.Xml
