/-!
Punycode, which spells a text in ASCII. The ASCII characters of the text come first. The others
follow as numbers, by increasing code point: each number is how many places and code points are
skipped before the next character goes in. The digits of a number have a base that adapts to the
numbers before.
-/
namespace WideColumn.Punycode

/-- Why a text spells nothing. -/
inductive SpellingError
  | incomplete
  | digit (c : Char)
  | codePoint (n : Nat)
  deriving DecidableEq, Repr

def hexText (n : Nat) : String := String.ofList (Nat.toDigits 16 n)

def SpellingError.message : SpellingError → String
  | incomplete => "incomplete punicode string"
  | digit c => "Invalid extended code point '" ++ c.toString ++ "'"
  | codePoint n => "Invalid character U+" ++ hexText n

/-- The digit with a value: the letters, and then the figures. -/
def digitChar (d : Nat) : Char := if d < 26 then Char.ofNat (0x61 + d) else Char.ofNat (0x16 + d)

/-- The value of a digit. Letters may be large or small. -/
def digitValue? (c : Char) : Option Nat :=
  if c.isAlpha then some (c.toLower.toNat - 0x61)
  else if c.isDigit then some (c.toNat - 0x16)
  else none

/-- The threshold at a place of a number: a digit below it is the last one. -/
def threshold (bias place : Nat) : Nat := max 1 (min 26 (36 * (place + 1) - bias))

theorem threshold_pos (bias place : Nat) : 1 ≤ threshold bias place := Nat.le_max_left ..

def writeNumber (bias place n : Nat) : List Char :=
  let t := threshold bias place
  if n < t then [digitChar n]
  else digitChar (t + (n - t) % (36 - t)) :: writeNumber bias (place + 1) ((n - t) / (36 - t))
termination_by n
decreasing_by
  have := threshold_pos bias place
  exact Nat.lt_of_le_of_lt (Nat.div_le_self ..) (by omega)

/-- The bias of small numbers, and how often a number has to be divided until it is small. -/
def settle (n : Nat) : Nat :=
  if 455 < n then 36 + settle (n / 35) else 36 * n / (n + 38)
termination_by n
decreasing_by exact Nat.div_lt_self (by omega) (by decide)

/-- The bias after a number, which may be the first one, and after which the text has `count`
characters. -/
def adapt (isFirst : Bool) (n count : Nat) : Nat :=
  let n := if isFirst then n / 700 else n / 2
  settle (n + n / count)

def firstBias : Nat := 72

/-- The code point at which the numbers begin to count. -/
def firstCode : Nat := 0x80

def isAscii (c : Char) : Bool := c.toNat < 0x80

/-- The numbers for the places of a code point in a text, when `skipped` have been skipped before
it. Then what has been skipped since, and how many characters the text has so far. -/
def gapsAt (code : Nat) : (skipped count : Nat) → List Char → List Nat × Nat × Nat
  | skipped, count, [] => ([], skipped, count)
  | skipped, count, c :: rest =>
    if c.toNat = code then
      let (gaps, after) := gapsAt code 0 (count + 1) rest
      (skipped :: gaps, after)
    else gapsAt code (if c.toNat < code then skipped + 1 else skipped) count rest

/-- The numbers for the code points, where `next` is the first one that has not been skipped. -/
def gaps (cs : List Char) : (next skipped count : Nat) → (codes : List Nat) → List Nat
  | _, _, _, [] => []
  | next, skipped, count, code :: codes =>
    let (found, skipped, count) := gapsAt code (skipped + (code - next) * (count + 1)) count cs
    found ++ gaps cs (code + 1) (skipped + 1) count codes

def writeNumbers : (isFirst : Bool) → (bias count : Nat) → List Nat → List Char
  | _, _, _, [] => []
  | isFirst, bias, count, n :: rest =>
    writeNumber bias 0 n ++ writeNumbers false (adapt isFirst n (count + 1)) (count + 1) rest

def insertCode (n : Nat) : List Nat → List Nat
  | [] => [n]
  | m :: rest =>
    if n < m then n :: m :: rest else if n = m then m :: rest else m :: insertCode n rest

def encode (cs : List Char) : List Char :=
  let plain := cs.filter isAscii
  let codes := ((cs.filter (!isAscii ·)).map (·.toNat)).foldr insertCode []
  let numbers := writeNumbers true firstBias plain.length (gaps cs firstCode 0 plain.length codes)
  if plain.isEmpty then numbers else plain ++ '-' :: numbers

/-- A spelling that is being read: the code points so far, the code point and the place where the
next number begins to count, and the number so far with its place and the weight of its next
digit. -/
structure Reading where
  codes : List Nat
  code : Nat := firstCode
  position : Nat := 0
  bias : Nat := firstBias
  isFirst : Bool := true
  place : Nat := 0
  weight : Nat := 1
  sum : Nat := 0

namespace Reading

def insert (r : Reading) (sum : Nat) : Except SpellingError Reading :=
  let count := r.codes.length + 1
  let position := r.position + sum
  let code := r.code + position / count
  if 0x10ffff < code then .error (.codePoint code)
  else .ok {
    codes := r.codes.insertIdx (position % count) code
    code := code
    position := position % count + 1
    bias := adapt r.isFirst sum count
    isFirst := false }

def step (r : Reading) (c : Char) : Except SpellingError Reading :=
  match digitValue? c with
  | none => .error (.digit c.toUpper)
  | some d =>
    let sum := r.sum + d * r.weight
    let t := threshold r.bias r.place
    if d < t then r.insert sum
    else .ok { r with place := r.place + 1, weight := r.weight * (36 - t), sum := sum }

end Reading

/-- The code points that a text spells. The last hyphen ends the ASCII characters. -/
def decode (cs : List Char) : Except SpellingError (List Nat) := do
  let numbers := (cs.reverse.takeWhile (· ≠ '-')).reverse
  let plain := cs.take (cs.length - numbers.length - 1)
  let r ← numbers.foldlM Reading.step { codes := plain.map (·.toNat) }
  if r.place = 0 then return r.codes else .error .incomplete

end WideColumn.Punycode
