import WideColumn.Bytes.Utf8

/-!
Escapes in locations: `%` and two hexadecimal digits stand for a byte of UTF-8.
-/
namespace WideColumn.Location

def escapedByte (b : UInt8) : List Char := '%' :: (Bytes.hexDigits 2 b.toNat).map Char.toUpper

def escaped (isPlain : Char → Bool) (cs : List Char) : List Char :=
  cs.flatMap fun c => if isPlain c then [c] else (String.utf8EncodeChar c).flatMap escapedByte

def escape? : List Char → Option UInt8
  | '%' :: a :: b :: _ =>
    match Bytes.hexValue? a, Bytes.hexValue? b with
    | some a, some b => some (UInt8.ofNat (16 * a + b))
    | _, _ => none
  | _ => none

/-- The bytes of a text after `skip` characters of an escape, where escapes stand for their bytes
unless these are kept as they are. -/
def unescapeAfter (isKept : UInt8 → Bool) : (skip : Nat) → List Char → Bytes
  | _, [] => []
  | skip + 1, _ :: rest => unescapeAfter isKept skip rest
  | 0, c :: rest =>
    match (escape? (c :: rest)).filter (!isKept ·) with
    | some b => b :: unescapeAfter isKept 2 rest
    | none => String.utf8EncodeChar c ++ unescapeAfter isKept 0 rest

/-- The text without escapes. Bytes that spell nothing become replacement characters. -/
def unescaped (cs : List Char) : List Char := Utf8.decodeLossy (unescapeAfter (fun _ => false) 0 cs)

/-- The text without escapes, but for those that are kept and those that spell nothing. -/
def unescapedExcept (isKept : UInt8 → Bool) (cs : List Char) : List Char :=
  (Utf8.parts (unescapeAfter isKept 0 cs)).flatMap fun
    | .ok c => [c]
    | .error bytes => bytes.flatMap escapedByte

end WideColumn.Location
