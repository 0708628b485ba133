import WideColumn.Xml.Lexeme

/-!
The tokens before the first tag of an XML document: white space, comments, instructions, and the
parts of which the declarations of a document type are made. Most tokens have to be followed by
white space or by certain signs.
-/
namespace WideColumn.Xml

/-- What a word before the first tag is: a name without a colon, one with a colon inside, or a
word that is no name. -/
inductive WordKind
  | plain
  | qualified
  | token
  deriving DecidableEq, Repr

inductive TypeToken
  | space
  | comment
  | instruction
  | xmlDeclaration
  | declaration (keyword : List Char)
  | conditional
  | conditionalEnd
  | element
  | word (kind : WordKind) (cs : List Char)
  | repeatedName
  | hashName (cs : List Char)
  | literal (cs : List Char)
  | groupStart
  | groupEnd (repetition : Option Char)
  | subsetStart
  | subsetEnd
  | comma
  | bar
  | finish
  | percent
  | parameter
  deriving DecidableEq, Repr

namespace TypeToken

variable (e : Encoding)

def isRepetition (c : Char) : Bool := c = '?' || c = '*' || c = '+'

def wordRest (kind : WordKind) : List Char → WordKind × List Char × List Char
  | [] => (kind, [], [])
  | c :: rest =>
    if e.isNameChar c then
      let (kind, cs, rest) := wordRest kind rest
      (kind, c :: cs, rest)
    else if c = ':' then
      let isQualified := kind = .plain && rest.head?.any e.isNameChar
      let (kind, cs, rest) := wordRest (if isQualified then .qualified else .token) rest
      (kind, c :: cs, rest)
    else (kind, [], c :: rest)

/-- A word. One that ends in a colon cannot be the last part of a text. -/
def readWord (cs : List Char) : Lexed (TypeToken × List Char) :=
  let start := if cs.head?.any e.isNameStart then WordKind.plain else .token
  let (kind, text, rest) := wordRest e start cs
  match rest with
  | [] =>
    if start = .plain && text.dropLast.all (· ≠ ':') && text.getLast? = some ':' then .error .ended
    else .ok (.word kind text, [])
  | c :: after =>
    if isRepetition c && kind ≠ .token then .ok (.repeatedName, after)
    else if isSpace c || [')', '>', ',', '|', '[', '%'].contains c then .ok (.word kind text, rest)
    else .error (.atCharacter rest)

def untilQuote (quote : Char) : List Char → Lexed (List Char × List Char)
  | [] => .error .ended
  | c :: rest =>
    if c = quote then .ok ([], rest)
    else if isChar c then (untilQuote quote rest).map fun (cs, rest) => (c :: cs, rest)
    else .error (.atCharacter (c :: rest))

/-- A text in quotes, read after the first one. -/
def readLiteral (quote : Char) (cs : List Char) : Lexed (TypeToken × List Char) := do
  let (text, rest) ← untilQuote quote cs
  if rest.head?.all fun c => isSpace c || ['>', '%', '['].contains c then
    return (.literal text, rest)
  else .error (.here rest)

/-- A declaration, a comment or a conditional section, read after its exclamation mark. -/
def readDeclaration (cs : List Char) : Lexed (TypeToken × List Char) :=
  match cs with
  | '-' :: rest => (Xml.comment rest).map fun rest => (.comment, rest)
  | '[' :: rest => .ok (.conditional, rest)
  | _ =>
    let keyword := cs.takeWhile e.isKeywordChar
    let rest := cs.drop keyword.length
    if keyword.isEmpty then .error (.here cs)
    else
      match rest with
      | ['%'] => .error .ended
      | '%' :: c :: _ =>
        if isSpace c || c = '%' then .error (.here rest) else .ok (.declaration keyword, rest)
      | _ =>
        if rest.head?.any isSpace then .ok (.declaration keyword, rest) else .error (.here rest)

def readHashName (cs : List Char) : Lexed (TypeToken × List Char) := do
  let (name, rest) ← plainName e cs
  if rest.head?.all fun c => isSpace c || [')', '>', '%', '|'].contains c then
    return (.hashName name, rest)
  else .error (.here rest)

def readGroupEnd (cs : List Char) : Lexed (TypeToken × List Char) :=
  match cs with
  | [] => .ok (.groupEnd none, [])
  | c :: rest =>
    if isRepetition c then .ok (.groupEnd (some c), rest)
    else if isSpace c || ['>', ',', '|', ')'].contains c then .ok (.groupEnd none, cs)
    else .error (.here cs)

def read (cs : List Char) : Lexed (TypeToken × List Char) :=
  match cs with
  | [] => .error .ended
  | '"' :: rest => readLiteral '"' rest
  | '\'' :: rest => readLiteral '\'' rest
  | '<' :: '!' :: rest => readDeclaration e rest
  | '<' :: '?' :: rest =>
    (Xml.instruction e rest).map fun (kind, rest) =>
      (if kind = .declaration then .xmlDeclaration else .instruction, rest)
  | '<' :: rest =>
    if rest.head?.any e.beginsTag then .ok (.element, cs)
    else .error (.here rest)
  | '%' :: rest =>
    (Xml.percent e rest).map fun (kind, rest) =>
      (if kind = .reference then .parameter else .percent, rest)
  | ',' :: rest => .ok (.comma, rest)
  | '[' :: rest => .ok (.subsetStart, rest)
  | [']', ']'] => .error .ended
  | ']' :: ']' :: '>' :: rest => .ok (.conditionalEnd, rest)
  | ']' :: rest => .ok (.subsetEnd, rest)
  | '(' :: rest => .ok (.groupStart, rest)
  | ')' :: rest => readGroupEnd rest
  | '|' :: rest => .ok (.bar, rest)
  | '>' :: rest => .ok (.finish, rest)
  | '#' :: rest => readHashName e rest
  | c :: _ =>
    if isSpace c then .ok (.space, skipSpace cs)
    else if e.isNameChar c || c = ':' then readWord e cs
    else .error (.atCharacter cs)

/-- A token at the end of a text, after which half a character follows: a token that may go on takes
it in, and is no keyword any more. -/
def withHalf? : TypeToken → Option TypeToken
  | .word kind cs => some (.word kind (cs ++ [cutMark]))
  | .hashName cs => some (.hashName (cs ++ [cutMark]))
  | .literal cs => some (.literal cs)
  | .groupEnd none => some (.groupEnd none)
  | .subsetEnd => some .subsetEnd
  | _ => none

end TypeToken
end WideColumn.Xml
