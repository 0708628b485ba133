/-!
Byte strings: hexadecimal spelling, big-endian words, and splitting at a byte.
-/
namespace WideColumn

abbrev Bytes := List UInt8

namespace Bytes

/-- The lower-case hexadecimal digit of a number below sixteen. -/
def hexDigit (n : Nat) : Char := Char.ofNat (if n < 10 then 0x30 + n else 0x57 + n)

def hexValue? (c : Char) : Option Nat :=
  if '0' ≤ c ∧ c ≤ '9' then some (c.toNat - 0x30)
  else if 'a' ≤ c ∧ c ≤ 'f' then some (c.toNat - 0x57)
  else if 'A' ≤ c ∧ c ≤ 'F' then some (c.toNat - 0x37)
  else none

def hexDigits : (width : Nat) → Nat → List Char
  | 0, _ => []
  | width + 1, n => hexDigits width (n / 16) ++ [hexDigit (n % 16)]

def hex (b : Bytes) : String := String.ofList (b.flatMap fun x => hexDigits 2 x.toNat)

def ofHex? : List Char → Option Bytes
  | [] => some []
  | h :: l :: rest =>
    match hexValue? h, hexValue? l, ofHex? rest with
    | some a, some b, some more => some (UInt8.ofNat (16 * a + b) :: more)
    | _, _, _ => none
  | [_] => none

/-- The lowest `width` bytes of a number, the most significant first. -/
def bigEndian : (width : Nat) → Nat → Bytes
  | 0, _ => []
  | width + 1, n => bigEndian width (n / 256) ++ [UInt8.ofNat (n % 256)]

/-- The least number that is too large for eight bytes of two's complement. -/
def int64Limit : Int := 0x8000000000000000

def ofInt64? (n : Int) : Option Bytes :=
  if -int64Limit ≤ n ∧ n < int64Limit then some (bigEndian 8 (n % (2 * int64Limit)).toNat)
  else none

/-- The part before the first `sep` and the part after it, if there is a `sep`. -/
def splitAt? (sep : UInt8) : Bytes → Option (Bytes × Bytes)
  | [] => none
  | b :: rest =>
    if b = sep then some ([], rest)
    else (splitAt? sep rest).map fun (before, after) => (b :: before, after)

end Bytes
end WideColumn
