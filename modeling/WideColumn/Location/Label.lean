import WideColumn.Location.Direction
import WideColumn.Location.Punycode
import WideColumn.Text.Folding.Basic
import WideColumn.Text.Quoted

/-!
The names of hosts. A name is a row of labels with dots in between, and a label that is not ASCII
is spelled in ASCII, behind a mark.
-/
namespace WideColumn.Location

open Punycode (isAscii)

inductive LabelError
  | size
  | long
  | forbidden (c : Char)
  | surrogate (code : Nat)
  | mixedDirections
  | edgeDirections
  | marked
  | spelling (e : Punycode.SpellingError)
  | otherSpelling (label again : List Char)
  deriving DecidableEq, Repr

namespace LabelError

def shownAscii (cs : List Char) : String :=
  String.ofList (Text.quotedBytes (cs.map fun c => UInt8.ofNat c.toNat))

def message : LabelError → String
  | size => "label empty or too long"
  | long => "label too long"
  | forbidden c => "Invalid character " ++ String.ofList (Text.quoted [c])
  | surrogate code => "Invalid character '\\u" ++ Punycode.hexText code ++ "'"
  | mixedDirections => "Violation of BIDI requirement 2"
  | edgeDirections => "Violation of BIDI requirement 3"
  | marked => "Label starts with ACE prefix"
  | spelling e => "decoding with 'punycode' codec failed (UnicodeError: " ++ e.message ++ ")"
  | otherSpelling label again =>
    "('IDNA does not round-trip', " ++ shownAscii label ++ ", " ++ shownAscii again ++ ")"

end LabelError

namespace Label

def mark : List Char := "xn--".toList

def limit : Nat := 64

def sized (label : List Char) : Except LabelError (List Char) :=
  if 0 < label.length && label.length < limit then .ok label else .error .size

/-- The folded label, if its characters may stand together: where letters are written from right to
left, there are no others, and such letters are first and last. -/
def prepared (label : List Char) : Except LabelError (List Char) :=
  let cs := Text.folded label
  match cs.find? isForbidden with
  | some c => .error (.forbidden c)
  | none =>
    if !cs.any isLeftward then .ok cs
    else if cs.any isRightward then .error .mixedDirections
    else if cs.head?.all isLeftward && cs.getLast?.all isLeftward then .ok cs
    else .error .edgeDirections

def toAscii (label : List Char) : Except LabelError (List Char) :=
  if label.all isAscii then sized label
  else do
    let cs ← prepared label
    if cs.all isAscii then sized cs
    else if mark.isPrefixOf cs then .error .marked
    else sized (mark ++ Punycode.encode cs)

/-- The characters with these code points. A surrogate is none, and is forbidden in a label. -/
def ofCodes (codes : List Nat) : Except LabelError (List Char) :=
  let cs := codes.takeWhile Nat.isValidChar
  match codes.drop cs.length with
  | [] => .ok (cs.map Char.ofNat)
  | code :: _ =>
    match (Text.folded (cs.map Char.ofNat)).find? isForbidden with
    | some c => .error (.forbidden c)
    | none => .error (.surrogate code)

def ofAscii (label : List Char) : Except LabelError (List Char) :=
  if !mark.isPrefixOf label then .ok label
  else do
    let codes ← (Punycode.decode (label.drop mark.length)).mapError .spelling
    let cs ← ofCodes codes
    let again ← toAscii cs
    if label.map Char.toLower = again then .ok cs else .error (.otherSpelling label again)

end Label

namespace HostName

def isDot (c : Char) : Bool := c = '.' || c = '\u3002' || c = '\uff0e' || c = '\uff61'

def labels (name : List Char) : List (List Char) × Bool :=
  let all := Text.splitOn '.' (name.map fun c => if isDot c then '.' else c)
  if all.getLast? = some [] then (all.dropLast, true) else (all, false)

def ofLabels (labels : List (List Char)) (endsInDot : Bool) : List Char :=
  List.intercalate ['.'] labels ++ (if endsInDot then ['.'] else [])

/-- Checks the labels of a name in ASCII. The last one may be empty. -/
def checkAscii (name : List Char) : Except LabelError Unit :=
  let all := Text.splitOn '.' name
  if !all.dropLast.all (fun label => 0 < label.length && label.length < Label.limit) then
    .error .size
  else if (all.getLast?.getD []).length < Label.limit then .ok ()
  else .error .long

def toAscii (name : List Char) : Except LabelError (List Char) := do
  if name.all isAscii then
    checkAscii name
    return name
  else
    let (all, endsInDot) := labels name
    return ofLabels (← all.mapM Label.toAscii) endsInDot

def hasMark (name : List Char) : Bool :=
  (List.range name.length).any fun n => Label.mark.isPrefixOf (name.drop n)

def ofAscii (name : List Char) : Except LabelError (List Char) := do
  if hasMark name then
    let (all, endsInDot) := labels name
    return ofLabels (← all.mapM Label.ofAscii) endsInDot
  else return name

end HostName
end WideColumn.Location
