import WideColumn.Bytes.Basic

/-!
UTF-8. Decoding reads a byte string as a list of characters and of ill-formed parts; an ill-formed
part is as long as the longest beginning of a character that stands there, and at least one byte.
-/
namespace WideColumn.Utf8

def encode (cs : List Char) : Bytes := cs.flatMap String.utf8EncodeChar

def ofString (s : String) : Bytes := encode s.toList

def isContinuation (b : UInt8) : Bool := 0x80 ≤ b && b ≤ 0xbf

/-- Which second byte may follow the first byte of a character of three or four bytes: overlong
forms, surrogates and code points above the last one are left out. -/
def isSecond (first second : UInt8) : Bool :=
  (if first = 0xe0 then 0xa0 else if first = 0xf0 then 0x90 else 0x80) ≤ second &&
    second ≤ (if first = 0xed then 0x9f else if first = 0xf4 then 0x8f else 0xbf)

def payload (b : UInt8) : Nat := b.toNat % 64

/-- What a byte and those after it begin with: a character, or `none` for an ill-formed part,
and how many of the bytes after the first belong to it. -/
def first (a : UInt8) (rest : Bytes) : Option Char × Nat :=
  if a < 0x80 then (some (Char.ofNat a.toNat), 0)
  else if a < 0xc2 then (none, 0)
  else if a < 0xe0 then
    match rest with
    | b :: _ =>
      if isContinuation b then (some (Char.ofNat (a.toNat % 32 * 64 + payload b)), 1) else (none, 0)
    | [] => (none, 0)
  else if a < 0xf0 then
    match rest with
    | b :: c :: _ =>
      if !isSecond a b then (none, 0)
      else if !isContinuation c then (none, 1)
      else (some (Char.ofNat (a.toNat % 16 * 4096 + payload b * 64 + payload c)), 2)
    | b :: [] => (none, if isSecond a b then 1 else 0)
    | [] => (none, 0)
  else if a < 0xf5 then
    match rest with
    | b :: c :: d :: _ =>
      if !isSecond a b then (none, 0)
      else if !isContinuation c then (none, 1)
      else if !isContinuation d then (none, 2)
      else
        (some (Char.ofNat
          (a.toNat % 8 * 262144 + payload b * 4096 + payload c * 64 + payload d)), 3)
    | b :: c :: [] => (none, if !isSecond a b then 0 else if !isContinuation c then 1 else 2)
    | b :: [] => (none, if isSecond a b then 1 else 0)
    | [] => (none, 0)
  else (none, 0)

/-- The characters and ill-formed parts of the bytes after the first `skip` ones. -/
def partsAfter : (skip : Nat) → Bytes → List (Except Bytes Char)
  | _, [] => []
  | skip + 1, _ :: rest => partsAfter skip rest
  | 0, a :: rest =>
    match first a rest with
    | (some c, more) => .ok c :: partsAfter more rest
    | (none, more) => .error (a :: rest.take more) :: partsAfter more rest

/-- The characters that the bytes spell, and the ill-formed parts between them. -/
def parts (b : Bytes) : List (Except Bytes Char) := partsAfter 0 b

def decode? (b : Bytes) : Option (List Char) := (parts b).mapM Except.toOption

/-- The text that the bytes spell, with a replacement character for every ill-formed part. -/
def decodeLossy (b : Bytes) : List Char := (parts b).map (·.toOption.getD '\ufffd')

/-- The string that the bytes spell, with a replacement character for every ill-formed part. -/
def toStringLossy (b : Bytes) : String := String.ofList (decodeLossy b)

end WideColumn.Utf8
