import WideColumn.Text.Blank
import WideColumn.Text.Digit
import WideColumn.Text.Quoted

/-!
Integers in decimal. A written integer may have blanks around it, a sign, digits of any script and
single underscores between digits. More than 4300 digits are refused, in reading and in writing.
-/
namespace WideColumn.Text

def natural (n : Nat) : List Char := Nat.toDigits 10 n

/-- The digits of an integer, however many they are. -/
def integer (n : Int) : List Char :=
  if n < 0 then '-' :: natural n.natAbs else natural n.natAbs

/-- Why a text is not read as an integer, or an integer not written. The first case shows the text,
in quotes. -/
inductive IntegerError
  | malformed (shown : List Char)
  | tooLong (digits : Nat)
  | unwritable
  deriving DecidableEq, Repr

namespace IntegerError

/-- At most this many characters of a malformed text are shown. -/
def shownLimit : Nat := 200

def message : IntegerError → String
  | malformed shown =>
    "invalid literal for int() with base 10: " ++ String.ofList (shown.take shownLimit)
  | tooLong digits =>
    "Exceeds the limit (4300 digits) for integer string conversion: value has " ++
      String.ofList (natural digits) ++
      " digits; use sys.set_int_max_str_digits() to increase the limit"
  | unwritable =>
    "Exceeds the limit (4300 digits) for integer string conversion; " ++
      "use sys.set_int_max_str_digits() to increase the limit"

end IntegerError

def integerDigitLimit : Nat := 4300

/-- Whether an integer has no more digits than may be written. -/
def isWritable (n : Int) : Bool := n.natAbs < Nat.pow 10 integerDigitLimit

def writeInteger (n : Int) : Except IntegerError (List Char) :=
  if isWritable n then .ok (integer n) else .error .unwritable

/-- A blank that may stand around an integer: any but the four information separators. -/
def isIntegerBlank (c : Char) : Bool := isBlank c && !('\x1c' ≤ c && c ≤ '\x1f')

/-- Whether every underscore stands between two digits, where `afterDigit` says whether a digit
stands before the text. The last character has to be a digit. -/
def isGrouped (afterDigit : Bool) : List Char → Bool
  | [] => afterDigit
  | c :: rest => if c = '_' then afterDigit && isGrouped false rest else isGrouped true rest

structure IntegerScript where
  digit? : Char → Option Nat
  isBlank : Char → Bool

def IntegerScript.read (script : IntegerScript) (cs : List Char) :
    Option (Except Nat Int) :=
  let body := cs.dropWhile script.isBlank
  let negative := body.head? = some '-'
  let body := if negative || body.head? = some '+' then body.tail else body
  let isMember := fun c => (script.digit? c).isSome || c = '_'
  let run := body.takeWhile isMember
  let digits := run.filterMap script.digit?
  if !isGrouped false run then none
  else if digits.length > integerDigitLimit then some (.error digits.length)
  else if !(body.dropWhile isMember).all script.isBlank then none
  else
    let magnitude : Nat := digits.foldl (fun n d => 10 * n + d) 0
    some (.ok (if negative then -(magnitude : Int) else magnitude))

def unicodeScript : IntegerScript := ⟨decimalValue?, isIntegerBlank⟩

def asciiScript : IntegerScript :=
  ⟨fun c => if c.isDigit then some (c.toNat - 0x30) else none,
    fun c => c.toNat < 0x80 && isIntegerBlank c⟩

def readInteger (cs : List Char) : Except IntegerError Int :=
  match unicodeScript.read cs with
  | some (.ok n) => .ok n
  | some (.error digits) => .error (.tooLong digits)
  | none => .error (.malformed (quoted cs))

def readIntegerBytes (b : Bytes) : Except IntegerError Int :=
  match asciiScript.read (b.map fun x => Char.ofNat x.toNat) with
  | some (.ok n) => .ok n
  | some (.error digits) => .error (.tooLong digits)
  | none => .error (.malformed (quotedBytes (b.take IntegerError.shownLimit)))

end WideColumn.Text
