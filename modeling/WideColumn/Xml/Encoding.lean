import WideColumn.Bytes.Utf8
import WideColumn.Text.CharacterSet.Registry
import WideColumn.Xml.NameChar

/-!
How the bytes of a document become characters, and what hangs on it: the size of a character, and
which characters are letters. Bytes that stand for nothing become marks that no document may hold,
so that reading goes on up to them.
-/
namespace WideColumn.Xml

inductive Encoding
  | utf8
  | utf16 (bigEndian : Bool)
  | latin
  | single (upper : String) (missing : List UInt8)
  deriving DecidableEq, Repr

def strayMark : Char := '\x00'

def brokenMark : Char := '\uffff'

/-- The mark of a part of a character in which a document ends. -/
def cutMark : Char := '\ufffe'

namespace Encoding

/-- The number of bytes of a character of UTF-8 by its first byte, if it may be one. -/
def lengthOf? (b : UInt8) : Option Nat :=
  if b < 0x80 then some 1
  else if b < 0xc0 then none
  else if b < 0xe0 then some 2
  else if b < 0xf0 then some 3
  else if b < 0xf5 then some 4
  else none

def decodeUtf8 : (skip : Nat) → Bytes → List Char
  | _, [] => []
  | skip + 1, _ :: rest => decodeUtf8 skip rest
  | 0, a :: rest =>
    match lengthOf? a with
    | none => strayMark :: decodeUtf8 0 rest
    | some n =>
      let more := rest.take (n - 1)
      if more.length < n - 1 then cutMark :: more.map fun _ => cutMark
      else
        match Utf8.first a rest with
        | (some c, skip) =>
          if c = brokenMark || c = cutMark then brokenMark :: decodeUtf8 0 rest
          else c :: decodeUtf8 skip rest
        | (none, _) => brokenMark :: decodeUtf8 0 rest

def unit (bigEndian : Bool) (a b : UInt8) : Nat :=
  if bigEndian then 256 * a.toNat + b.toNat else 256 * b.toNat + a.toNat

/-- The text of two-byte units. Whatever follows the first unit of a pair is its second one, and a
single byte at the end is left out. -/
def decodeUnits (bigEndian : Bool) : Bytes → List Char
  | a :: b :: rest =>
    let first := unit bigEndian a b
    if first < 0xd800 then Char.ofNat first :: decodeUnits bigEndian rest
    else if first < 0xdc00 then
      match rest with
      | c :: d :: rest =>
        Char.ofNat (0x10000 + (first - 0xd800) * 0x400 + unit bigEndian c d % 0x400) ::
          decodeUnits bigEndian rest
      | _ => [cutMark]
    else if first < 0xe000 || 0xfffe ≤ first then strayMark :: decodeUnits bigEndian rest
    else Char.ofNat first :: decodeUnits bigEndian rest
  | _ => []

def decode (b : Bytes) : Encoding → List Char
  | utf8 => decodeUtf8 0 b
  | utf16 bigEndian => decodeUnits bigEndian b
  | latin => b.map fun x => Char.ofNat x.toNat
  | single upper missing => (Text.CharacterSet.decode upper missing b).map (·.getD strayMark)

def width : Encoding → Nat
  | utf16 _ => 2
  | _ => 1

/-- The number of bytes of a character. The mark of a byte is as long as the byte. -/
def size (e : Encoding) (c : Char) : Nat :=
  match e with
  | utf8 => if c = brokenMark || c = cutMark then 1 else c.utf8Size
  | utf16 _ => if c.toNat < 0x10000 then 2 else 4
  | latin | single .. => 1

def sizeOf (e : Encoding) (cs : List Char) : Nat := cs.foldl (fun n c => n + e.size c) 0

/-- The letters that are letters only in UTF-16 and in Latin-1. -/
def ordinals : List Char := ['ª', 'µ', 'º']

def isNameStart (e : Encoding) (c : Char) : Bool :=
  Xml.isNameStart c ||
    match e with
    | utf16 _ | latin => ordinals.contains c
    | utf8 | single .. => false

def isNameChar (e : Encoding) (c : Char) : Bool := Xml.isNameChar c || e.isNameStart c

/-- Whether a character is one byte, or one unit that counts as a byte. -/
def isByte (e : Encoding) (c : Char) : Bool :=
  match e with
  | utf8 => c.toNat < 0x80
  | utf16 _ => c.toNat < 0x100
  | latin | single .. => true

def isKeywordChar (e : Encoding) (c : Char) : Bool := e.isByte c && e.isNameStart c

/-- A character after which a bracket begins a tag, as far as that is looked at before the first
tag: a letter, or something of more than a byte. -/
def beginsTag (e : Encoding) (c : Char) : Bool :=
  if e.isByte c then e.isNameStart c else c ≠ strayMark

/-- The encoding that the first bytes of a document tell, and the byte order mark. -/
def ofBytes (b : Bytes) : Encoding × Nat :=
  match b with
  | 0xfe :: 0xff :: _ => (utf16 true, 2)
  | 0xff :: 0xfe :: _ => (utf16 false, 2)
  | 0xef :: 0xbb :: 0xbf :: _ => (utf8, 3)
  | 0x00 :: _ :: _ => (utf16 true, 0)
  | _ :: 0x00 :: _ => (utf16 false, 0)
  | _ => (utf8, 0)

def isUndecided (b : Bytes) : Bool :=
  [[0xfe], [0xff], [0x00], [0xef], [0xef, 0xbb]].contains b

/-- An encoding that every document may declare, besides the one with two bytes in either order. -/
def standard? (name : String) : Option Encoding :=
  match name with
  | "utf-8" => some utf8
  | "iso-8859-1" => some latin
  | "us-ascii" => some (single Text.CharacterSet.noUpper [])
  | "utf-16be" => some (utf16 true)
  | "utf-16le" => some (utf16 false)
  | _ => none

end Encoding

/-- How a text is written, and whether one more byte follows it that is only half a character. -/
structure TextForm where
  encoding : Encoding := .utf8
  endsInHalf : Bool := false
  deriving DecidableEq, Repr

end WideColumn.Xml
