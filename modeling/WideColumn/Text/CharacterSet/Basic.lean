import WideColumn.Bytes.Basic

/-!
Encodings by name, and the character sets that are written as single bytes. The lower half of such a
set is ASCII, and the upper half is listed.
-/
namespace WideColumn.Text.CharacterSet

/-- What a name of an encoding stands for: a set of single bytes, given by its upper half, which has
a replacement character for every byte that stands for nothing, and by the lower bytes that stand
for nothing; a set in which the signs of markup are not where ASCII has them; an encoding in several
bytes; a transformation of bytes that is no encoding of text; or an encoding that cannot replace
what it cannot read. -/
inductive Meaning
  | single (upper : String) (missing : List UInt8 := [])
  | unfit
  | wide
  | transform
  | strict (reason : String)
  | asciiOnly
  deriving DecidableEq, Repr

structure NamedEncoding where
  name : String
  aliases : List String
  meaning : Meaning
  deriving DecidableEq, Repr

def noUpper : String := ""

/-- The controls at the beginning of many an upper half. -/
def controls : String := String.ofList ((List.range 32).map fun n => Char.ofNat (0x80 + n))

/-- The upper half in which every byte stands for the code point of its number. -/
def latinUpper : String := String.ofList ((List.range 128).map fun n => Char.ofNat (0x80 + n))

/-- The characters of bytes in a set, with `none` for a byte that stands for nothing. -/
def decode (upper : String) (missing : List UInt8) (b : Bytes) : List (Option Char) :=
  let table := upper.toList.toArray
  b.map fun x =>
    if x < 0x80 then (if missing.contains x then none else some (Char.ofNat x.toNat))
    else (table[x.toNat - 0x80]?).filter (· ≠ '\ufffd')

end WideColumn.Text.CharacterSet
