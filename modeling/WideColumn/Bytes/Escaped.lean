import WideColumn.Bytes.Utf8

/-!
Printable spellings of byte strings: a backslash, an `x` and two hexadecimal digits stand for one
byte, and every other byte stands for itself.
-/
namespace WideColumn.Bytes

/-- The bytes that a spelling stands for. A byte that comes out of an escape takes no part in
another one, and an incomplete escape stays as it is. -/
def unescape : Bytes → Bytes
  | a :: b :: c :: d :: rest =>
    if a = 0x5c ∧ b = 0x78 then
      match hexValue? (Char.ofNat c.toNat), hexValue? (Char.ofNat d.toNat) with
      | some high, some low => UInt8.ofNat (16 * high + low) :: unescape rest
      | _, _ => a :: unescape (b :: c :: d :: rest)
    else a :: unescape (b :: c :: d :: rest)
  | short => short

end WideColumn.Bytes
