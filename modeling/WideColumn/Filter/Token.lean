import WideColumn.Filter.Rejection
import WideColumn.Text.Digit

/-!
Tokens of filter expressions. A string stands between single quotes, and a quote inside it is
written twice; a number is a run of digits with an optional minus sign; a name starts with a letter
or an underscore. Each token is as long as it can be, and blanks separate tokens.
-/
namespace WideColumn.Filter

open Text (isBlank isDigit isLetter isLetterOrNumeral)

inductive TokenKind
  | leftParen
  | rightParen
  | comma
  | string (value : List Char)
  | number (value : Int)
  | name
  | op (value : CompareOp)
  | finish
  deriving DecidableEq, Repr

structure Token where
  kind : TokenKind
  text : List Char
  position : Nat
  deriving DecidableEq, Repr

namespace Token

def finish (position : Nat) : Token := ⟨.finish, [], position⟩

def isWord (word : String) (t : Token) : Bool := t.kind = .name && String.ofList t.text = word

end Token

/-- The value of a string and the number of characters up to and with its closing quote, read
after the opening quote. -/
def stringBody : List Char → Option (List Char × Nat)
  | [] => none
  | '\'' :: '\'' :: rest => (stringBody rest).map fun (value, n) => ('\'' :: value, n + 2)
  | '\'' :: _ => some ([], 1)
  | c :: rest => (stringBody rest).map fun (value, n) => (c :: value, n + 1)

def isNameRest (c : Char) : Bool := isLetterOrNumeral c || c = '_'

def startsWithDigit : List Char → Bool
  | [] => false
  | c :: _ => isDigit c

/-- The longest operator at the start of a text, and the number of characters after its first. -/
def operator? (c : Char) (rest : List Char) : Option (CompareOp × Nat) :=
  match c, rest with
  | '<', '=' :: _ => some (.lessOrEqual, 1)
  | '>', '=' :: _ => some (.greaterOrEqual, 1)
  | '!', '=' :: _ => some (.notEqual, 1)
  | '<', _ => some (.less, 0)
  | '>', _ => some (.greater, 0)
  | '=', _ => some (.equal, 0)
  | _, _ => none

inductive LexemeError
  | reason (reason : Reason)
  | number (error : Text.IntegerError)
  deriving DecidableEq, Repr

/-- The token that starts with a character that is not blank: its kind, and the number of its
characters after the first. -/
def lexeme (c : Char) (rest : List Char) : Except LexemeError (TokenKind × Nat) :=
  if c = '(' then .ok (.leftParen, 0)
  else if c = ')' then .ok (.rightParen, 0)
  else if c = ',' then .ok (.comma, 0)
  else if c = '\'' then
    match stringBody rest with
    | some (value, n) => .ok (.string value, n)
    | none => .error (.reason .unterminatedString)
  else if isDigit c || (c = '-' && startsWithDigit rest) then
    let run := rest.takeWhile isDigit
    match Text.readInteger (c :: run) with
    | .ok value => .ok (.number value, run.length)
    | .error e => .error (.number e)
  else if isLetter c || c = '_' then .ok (.name, (rest.takeWhile isNameRest).length)
  else
    match operator? c rest with
    | some (op, n) => .ok (.op op, n)
    | none => .error (.reason (.unexpectedCharacter c))

/-- The tokens of a text that starts at a position, after `skip` characters of a token that has
been read. -/
def scanAfter : (skip : Nat) → (position : Nat) → List Char → Except Failure (List Token)
  | _, _, [] => .ok []
  | skip + 1, position, _ :: rest => scanAfter skip (position + 1) rest
  | 0, position, c :: rest =>
    if isBlank c then scanAfter 0 (position + 1) rest
    else
      match lexeme c rest with
      | .error (.reason reason) => reject reason position
      | .error (.number e) => .error (.number e)
      | .ok (kind, n) =>
        (scanAfter n (position + 1) rest).map (⟨kind, c :: rest.take n, position⟩ :: ·)

def scan (cs : List Char) : Except Failure (List Token) := scanAfter 0 0 cs

def tokenize (cs : List Char) : Except Failure (List Token) :=
  (scan cs).map (· ++ [Token.finish cs.length])

end WideColumn.Filter
