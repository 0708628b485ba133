import WideColumn.Xml.Encoding
import WideColumn.Xml.Problem

/-!
The lexemes of an XML document: names, references, comments, processing instructions and tags. A
lexeme is read from the beginning of a text, and the rest of the text is returned with it. Which
characters are letters hangs on the encoding of the text.
-/
namespace WideColumn.Xml

/-- A character that a document may hold. -/
def isChar (c : Char) : Bool :=
  c = '\t' || c = '\n' || c = '\r' || (' ' ≤ c && c.toNat ≠ 0xfffe && c.toNat ≠ 0xffff)

def isSpace (c : Char) : Bool := c = ' ' || c = '\t' || c = '\n' || c = '\r'

def skipSpace (cs : List Char) : List Char := cs.dropWhile isSpace

/-- Why a lexeme cannot be read: a character that may not stand at its place, with the number of
characters left there, the end of the text, or a character in which the text ends. -/
inductive Unread
  | invalid (left : Nat)
  | ended
  | cut
  deriving DecidableEq, Repr

/-- What is read from the beginning of a text: a lexeme, mostly with the rest of the text. -/
abbrev Lexed := Except Unread

def Unread.here (cs : List Char) : Unread := if cs.isEmpty then .ended else .invalid cs.length

/-- Why a lexeme cannot go on with a text where it looks for characters of any size. -/
def Unread.atCharacter (cs : List Char) : Unread :=
  if cs.head? = some cutMark then .cut else .here cs

def Unread.failure (start : Nat) : Unread → Failure
  | .invalid left => ⟨.invalidToken, left⟩
  | .ended => ⟨.unclosedToken, start⟩
  | .cut => ⟨.partialCharacter, start⟩

def TextForm.endProblem (f : TextForm) : Problem :=
  if f.endsInHalf then .unclosedToken else .noElement

section

variable (e : Encoding)

def nameEnd (cs : List Char) : Lexed (List Char) :=
  let rest := cs.dropWhile e.isNameChar
  if rest.head? = some cutMark then .error .cut else .ok rest

def plainName (cs : List Char) : Lexed (List Char × List Char) :=
  if cs.head?.any e.isNameStart then
    (nameEnd e cs).map fun rest => (cs.takeWhile e.isNameChar, rest)
  else .error (.atCharacter cs)

def qualifiedName (cs : List Char) : Lexed (List Char × List Char) := do
  let (first, rest) ← plainName e cs
  match rest with
  | ':' :: rest =>
    let (second, rest) ← plainName e rest
    if rest.head? = some ':' then .error (.here rest) else return (first ++ ':' :: second, rest)
  | _ => return (first, rest)

def splitName (name : List Char) : Option (List Char) × List Char :=
  let first := name.takeWhile (· ≠ ':')
  match name.drop first.length with
  | [] => (none, name)
  | _ :: second => (some first, second)

/-- A reference: a character by its number, if there is one of that number, or an entity. -/
inductive Reference
  | char (c : Option Char)
  | entity (name : List Char)
  deriving DecidableEq, Repr

def digit? (base : Nat) (c : Char) : Option Nat :=
  if c.isDigit then some (c.toNat - 0x30)
  else if base = 16 ∧ 'a' ≤ c ∧ c ≤ 'f' then some (c.toNat - 0x57)
  else if base = 16 ∧ 'A' ≤ c ∧ c ≤ 'F' then some (c.toNat - 0x37)
  else none

def charOfNumber? (n : Nat) : Option Char :=
  if n.isValidChar then (some (Char.ofNat n)).filter isChar else none

def charNumber (base : Nat) (cs : List Char) : Lexed (Reference × List Char) :=
  let digits := cs.takeWhile fun c => (digit? base c).isSome
  let rest := cs.drop digits.length
  if digits.isEmpty then .error (.here rest)
  else
    match rest with
    | ';' :: rest =>
      let n := (digits.filterMap (digit? base)).foldl (fun n d => base * n + d) 0
      .ok (.char (charOfNumber? n), rest)
    | _ => .error (.here rest)

/-- A reference, read after its ampersand. -/
def reference (cs : List Char) : Lexed (Reference × List Char) :=
  match cs with
  | '#' :: 'x' :: rest => charNumber 16 rest
  | '#' :: rest => charNumber 10 rest
  | _ => do
    let (name, rest) ← plainName e cs
    match rest with
    | ';' :: rest => return (.entity name, rest)
    | _ => .error (.here rest)

/-- What a percent sign begins: nothing, or a reference to a parameter entity. -/
inductive Percent
  | sign
  | reference
  deriving DecidableEq, Repr

/-- What a percent sign begins, read after it. -/
def percent (cs : List Char) : Lexed (Percent × List Char) :=
  if cs.head?.any fun c => isSpace c || c = '%' then .ok (.sign, cs)
  else do
    let (_, rest) ← plainName e cs
    match rest with
    | ';' :: rest => return (.reference, rest)
    | _ => .error (.here rest)

def standardEntities : List (List Char × Char) :=
  [("lt".toList, '<'), ("gt".toList, '>'), ("amp".toList, '&'), ("quot".toList, '"'),
   ("apos".toList, '\'')]

/-- The rest after the end of a comment. Two hyphens inside it are one too many. -/
def commentEnd : List Char → Lexed (List Char)
  | [] => .error .ended
  | '-' :: '-' :: '>' :: rest => .ok rest
  | '-' :: '-' :: rest => .error (.here rest)
  | c :: rest => if isChar c then commentEnd rest else .error (.atCharacter (c :: rest))

/-- The rest after a comment, read after its first hyphen. -/
def comment (cs : List Char) : Lexed (List Char) :=
  match cs with
  | '-' :: rest => commentEnd rest
  | _ => .error (.here cs)

def instructionEnd : List Char → Lexed (List Char)
  | [] => .error .ended
  | '?' :: '>' :: rest => .ok rest
  | c :: rest => if isChar c then instructionEnd rest else .error (.atCharacter (c :: rest))

/-- What a processing instruction is: an instruction, or the declaration of the document. -/
inductive Instruction
  | other
  | declaration
  deriving DecidableEq, Repr

/-- A processing instruction, read after its question mark. Its name is not the one of the
declaration in other letters. -/
def instruction (cs : List Char) : Lexed (Instruction × List Char) := do
  let (target, rest) ← plainName e cs
  let kind := if target = "xml".toList then Instruction.declaration else .other
  match rest with
  | [] => .error .ended
  | c :: after =>
    if !(isSpace c || c = '?') then .error (.here rest)
    else if kind = .other && target.map Char.toLower = "xml".toList then .error (.here rest)
    else if c = '?' then
      match after with
      | '>' :: rest => return (kind, rest)
      | _ => .error (.here after)
    else return (kind, ← instructionEnd after)

/-- An attribute as a tag spells it. Its value has not been looked at yet; the numbers of characters
left tell the places of its name and of the end of its value. -/
structure RawAttribute where
  name : List Char
  value : List Char
  nameLeft : Nat
  valueLeft : Nat
  deriving DecidableEq, Repr

/-- The text from the quote that closes the value of an attribute. -/
def valueEnd (quote : Char) : List Char → Lexed (List Char)
  | [] => .error .ended
  | c :: rest =>
    if c = quote then .ok (c :: rest)
    else if c = '<' || !isChar c then .error (.atCharacter (c :: rest))
    else if c = '&' then do
      let _ ← reference e rest
      valueEnd quote rest
    else valueEnd quote rest

/-- The rest after the equals sign of an attribute, from the quote that opens its value. -/
def valueStart (cs : List Char) : Lexed (Char × List Char) :=
  match skipSpace cs with
  | '=' :: rest =>
    match skipSpace rest with
    | [] => .error .ended
    | quote :: rest =>
      if quote = '"' || quote = '\'' then .ok (quote, rest)
      else .error (.invalid (rest.length + 1))
  | rest => .error (.here rest)

def rawAttribute (cs : List Char) : Lexed (RawAttribute × List Char) := do
  let (name, rest) ← qualifiedName e cs
  let (quote, start) ← valueStart rest
  let finish ← valueEnd e quote start
  let value := start.take (start.length - finish.length)
  return (⟨name, value, cs.length, finish.length⟩, finish.drop 1)

/-- The attributes of a tag up to its end, and whether the element is empty. White space stands
before every attribute. -/
def attributes : (fuel : Nat) → List Char → Lexed ((List RawAttribute × Bool) × List Char)
  | 0, _ => .error .ended
  | fuel + 1, cs =>
    match skipSpace cs with
    | '>' :: rest => .ok (([], false), rest)
    | '/' :: '>' :: rest => .ok (([], true), rest)
    | '/' :: rest => .error (.here rest)
    | here =>
      if here.length = cs.length then .error (.here here)
      else do
        let (first, rest) ← rawAttribute e here
        let ((more, isEmpty), rest) ← attributes fuel rest
        return ((first :: more, isEmpty), rest)

structure StartTag where
  name : List Char
  attributes : List RawAttribute
  isEmpty : Bool
  deriving DecidableEq, Repr

/-- The tag that opens an element, read after its bracket. -/
def startTag (cs : List Char) : Lexed (StartTag × List Char) := do
  let (name, rest) ← qualifiedName e cs
  let ((found, isEmpty), rest) ← attributes e (rest.length + 1) rest
  return (⟨name, found, isEmpty⟩, rest)

/-- The name of the tag that closes an element, read after its slash. -/
def endTag (cs : List Char) : Lexed (List Char × List Char) :=
  if !cs.head?.any e.isNameStart then .error (.atCharacter cs)
  else
    let isPart := fun c => e.isNameChar c || c = ':'
    let after := cs.dropWhile isPart
    if after.head? = some cutMark then .error .cut
    else
      match skipSpace after with
      | '>' :: rest => .ok (cs.takeWhile isPart, rest)
      | rest => .error (.here rest)

end

end WideColumn.Xml
