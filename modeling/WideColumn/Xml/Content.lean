import WideColumn.Xml.DocumentType.Grammar
import WideColumn.Xml.Namespace
import WideColumn.Xml.Source

/-!
The content of a document: its elements as a tree. Entities are read in the place of the references
to them; an element begins and ends in the text of the same entity.
-/
namespace WideColumn.Xml

/-- A part of a document: text, or an element with its parts. -/
inductive Node
  | text (cs : List Char)
  | element (name : List Char) (content : List Node)
  deriving Inhabited

/-- An element that has not been closed yet, with its parts in reverse. -/
structure OpenElement where
  tag : List Char
  name : List Char
  scope : Scope
  content : List Node := []

/-- A text that is read in the place of a reference: the entity, what is left of its text, how many
elements were open before it, and whether a reference to another entity ends it. -/
structure OpenEntity where
  name : List Char
  rest : List Char
  depth : Nat
  endsInReference : Bool := false

/-- A document while its content is read: what is left of its own text, and how many characters that
are; the texts of entities that are being read, the innermost first, with the place of the reference
to the outermost one; the open elements, the innermost first; and how much has been read. -/
structure Reader where
  rest : List Char
  left : Nat
  account : Account
  entities : List OpenEntity := []
  referenceLeft : Nat := 0
  elements : List OpenElement := []

namespace Reader

def text (r : Reader) : List Char :=
  match r.entities with
  | [] => r.rest
  | e :: _ => e.rest

/-- How the text that is read next is written, in a document that is written in a form. -/
def formOf (r : Reader) (form : TextForm) : TextForm := if r.entities.isEmpty then form else {}

def place (r : Reader) (left : Nat) : Nat := if r.entities.isEmpty then left else r.referenceLeft

def here (r : Reader) : Nat := r.place r.left

def pass (r : Reader) (form : TextForm) (token rest : List Char) : Reading Reader :=
  let size := (r.formOf form).encoding.sizeOf token
  let next :=
    match r.entities with
    | [] => { r with rest, left := r.left - token.length, account := r.account.read size }
    | e :: outer =>
      { r with entities := { e with rest } :: outer, account := r.account.expand size }
  if next.account.isExcessive then .fail .amplified r.here else .ok next

def passTo (r : Reader) (form : TextForm) (rest : List Char) : Reading Reader :=
  let cs := r.text
  r.pass form (cs.take (cs.length - rest.length)) rest

def depth (r : Reader) : Nat :=
  match r.entities with
  | [] => 0
  | e :: _ => e.depth

def add (r : Reader) (node : Node) : Reader :=
  match r.elements with
  | [] => r
  | e :: outer => { r with elements := { e with content := node :: e.content } :: outer }

def openElement (r : Reader) (d : DocumentType) (e : Encoding) (place : Nat → Nat) (start : Nat)
    (tag : StartTag) : Reading Reader := do
  let outer :=
    match r.elements with
    | [] => Scope.initial
    | e :: _ => e.scope
  let opened := r.entities.map (·.name)
  let (name, a) ← openTag d e opened place start outer r.account tag
  return { r with
    account := a.account
    elements := { tag := tag.name, name, scope := a.scope } :: r.elements }

/-- Closes the innermost element, which becomes a part of the one outside it. The outermost element
is returned. -/
def closeElement (r : Reader) : Option Node × Reader :=
  match r.elements with
  | [] => (none, r)
  | [e] => (some (.element e.name e.content.reverse), { r with elements := [] })
  | e :: outer => (none, { r with elements := outer }.add (.element e.name e.content.reverse))

/-- Goes on with the text of an entity. The place of the reference to it is given. -/
def includeText (r : Reader) (place : Nat) (name cs : List Char) : Reader :=
  let entities :=
    match r.entities with
    | [] => []
    | e :: outer => { e with endsInReference := e.rest.isEmpty } :: outer
  { r with referenceLeft := place, entities := ⟨name, cs, r.elements.length, false⟩ :: entities }

def takeReference (r : Reader) (d : DocumentType) (place : Nat) : Reference → Reading Reader
  | .char none => .fail .badCharacterNumber place
  | .char (some c) => .ok (r.add (.text [c]))
  | .entity name =>
    match standardEntities.lookup name with
    | some c => .ok (r.add (.text [c]))
    | none =>
      match d.entities.lookup name with
      | none => .fail (if d.knowsAllEntities then .undefinedEntity else .skippedEntity name) place
      | some value =>
        if r.entities.any (·.name = name) then .fail .recursiveEntity place
        else
          match value with
          | .binary => .fail .binaryEntity place
          | .external => .fail (.skippedEntity name) place
          | .text cs => .ok (r.includeText place name cs)

def endsRun (c : Char) : Bool :=
  c = '<' || c = '&' || c = ']' || c = '\n' || c = '\r' || !isChar c

def section? : List Char → Reading (List Char × List Char)
  | [] => .fail .unclosedSection 0
  | ['\r'] | [']'] => .fail .unclosedSection 1
  | [']', ']'] => .fail .unclosedSection 2
  | ']' :: ']' :: '>' :: rest => .ok ([], rest)
  | c :: rest =>
    if isChar c then (section? rest).map fun (cs, rest) => (c :: cs, rest)
    else
      let problem := if c = cutMark then Problem.partialCharacter else .invalidToken
      .fail problem (rest.length + 1)

def sectionMark : List Char := "CDATA[".toList

def expectMark : (mark : List Char) → List Char → Lexed (List Char)
  | [], cs => .ok cs
  | _ :: _, [] => .error .ended
  | m :: mark, c :: cs => if c = m then expectMark mark cs else .error (.invalid (cs.length + 1))

/-- The part of a text after the mark of a section. A text that is too short for the mark is not
looked at. -/
def sectionStart (e : Encoding) (cs : List Char) : Lexed (List Char) :=
  if e.sizeOf (cs.take sectionMark.length) < sectionMark.length * e.width then .error .ended
  else expectMark sectionMark cs

def takeText (r : Reader) (form : TextForm) (token rest : List Char) :
    Reading (Option Node × Reader) := do
  let r ← r.pass form token rest
  return (none, r.add (.text (Text.unifyBreaks token)))

/-- Reads one token: the outermost element if it ends here, and what is left to read. -/
def step (r : Reader) (d : DocumentType) (form : TextForm) : Reading (Option Node × Reader) :=
  let cs := r.text
  let own := r.formOf form
  let e := own.encoding
  let lift := fun {α : Type} (lexed : Lexed α) =>
    lexed.mapError fun e : Unread =>
      let f := e.failure r.left
      { f with left := r.place f.left }
  match cs with
  | '<' :: '!' :: '-' :: rest => do
    let rest ← lift (comment rest)
    return (none, ← r.passTo form rest)
  | '<' :: '!' :: '[' :: rest => do
    let rest ← lift (sectionStart e rest)
    let (found, rest) ← (section? rest).mapError fun e => { e with left := r.place e.left }
    let r ← r.passTo form rest
    return (none, r.add (.text (Text.unifyBreaks found)))
  | '<' :: '!' :: rest => lift (.error (.here rest))
  | '<' :: '?' :: rest => do
    let (kind, rest) ← lift (instruction e rest)
    if kind = .declaration then .fail .misplacedDeclaration r.here
    else return (none, ← r.passTo form rest)
  | '<' :: '/' :: rest => do
    let (name, after) ← lift (endTag e rest)
    let next ← r.passTo form after
    if r.elements.length = r.depth then .fail .unbalancedEntity r.here
    else if r.elements.head?.all (·.tag ≠ name) then
      .fail .mismatchedTag (r.place rest.length)
    else return next.closeElement
  | '<' :: rest => do
    let (tag, rest) ← lift (startTag e rest)
    let next ← r.passTo form rest
    let next ← next.openElement d e r.place r.left tag
    return if tag.isEmpty then next.closeElement else (none, next)
  | '&' :: rest => do
    let (found, rest) ← lift (reference e rest)
    let token :=
      match found with
      | .entity name => '&' :: name ++ [';']
      | .char _ => cs.take (cs.length - rest.length)
    let next ← r.pass form token rest
    return (none, ← next.takeReference d r.here found)
  | ']' :: ']' :: '>' :: rest => .fail .invalidToken (r.place (rest.length + 1))
  | '\r' :: '\n' :: rest => r.takeText form ['\r', '\n'] rest
  | c :: rest =>
    if c = '<' || !isChar c then lift (.error (.atCharacter cs))
    else if endsRun c then
      if r.entities.isEmpty && rest.isEmpty && c = '\r' then .fail .noElement 1
      else if r.entities.isEmpty && c = ']' && (rest.isEmpty || rest = [']']) then
        .fail .noElement 0
      else r.takeText form [c] rest
    else
      let more := rest.takeWhile (!endsRun ·)
      r.takeText form (c :: more) (rest.drop more.length)
  | [] =>
    match r.entities with
    | [] => .fail form.endProblem 0
    | e :: outer =>
      if !e.endsInReference && r.elements.length ≠ e.depth then .fail .unbalancedEntity r.here
      else .ok (none, { r with entities := outer })

def run (d : DocumentType) (form : TextForm) : (fuel : Nat) → Reader → Reading (Node × Reader)
  | 0, r => .fail .amplified r.referenceLeft
  | fuel + 1, r =>
    match r.step d form with
    | .error e => .error e
    | .ok (some root, r) => .ok (root, r)
    | .ok (none, r) => run d form fuel r

end Reader

/-- What follows the outermost element: nothing but comments and instructions. -/
def checkEpilog (form : TextForm) : (fuel : Nat) → Account → List Char → Reading Unit
  | 0, _, _ => .ok ()
  | _, _, [] => if form.endsInHalf then .fail .unclosedToken 0 else .ok ()
  | fuel + 1, account, c :: cs =>
    let start := cs.length + 1
    match TypeToken.read form.encoding (c :: cs) with
    | .error e => .error (e.failure start)
    | .ok (token, rest) =>
      let account := account.read (form.encoding.sizeOf ((c :: cs).take (start - rest.length)))
      if account.isExcessive then .fail .amplified start
      else
        match token with
        | .space | .comment | .instruction => checkEpilog form fuel account rest
        | _ => .fail .junkAfterElement start

/-- The outermost element of a document, read after its declaration. -/
def readDocument (s : SourceText) : Reading Node := do
  let prolog : Prolog :=
    { form := s.form
      type := { isStandalone := s.isStandalone }
      account := { own := s.sizeBefore } }
  let (p, content) ← prolog.read (s.rest.length + 1) s.rest
  let size := s.sizeBefore + s.form.encoding.sizeOf s.rest
  let fuel := 4 * (100 * (size + 1) + expansionLimit)
  let reader : Reader := { rest := content, left := content.length, account := p.account }
  let (root, r) ← Reader.run p.type s.form fuel reader
  checkEpilog s.form (r.left + 1) r.account r.rest
  return root

end WideColumn.Xml
