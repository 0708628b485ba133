import WideColumn.Bytes.Basic
import WideColumn.Text.Printable

/-!
Texts and byte strings as messages show them: between quotes, with escapes for what cannot be
printed. Single quotes stand around them, unless a single quote and no double quote occurs inside.
-/
namespace WideColumn.Text

def chooseQuote (cs : List Char) : Char :=
  if cs.contains '\'' && !cs.contains '"' then '"' else '\''

def escapeChar (quote c : Char) : List Char :=
  if c = quote || c = '\\' then ['\\', c]
  else if c = '\n' then ['\\', 'n']
  else if c = '\r' then ['\\', 'r']
  else if c = '\t' then ['\\', 't']
  else if isPrintable c then [c]
  else if c.toNat < 0x100 then '\\' :: 'x' :: Bytes.hexDigits 2 c.toNat
  else if c.toNat < 0x10000 then '\\' :: 'u' :: Bytes.hexDigits 4 c.toNat
  else '\\' :: 'U' :: Bytes.hexDigits 8 c.toNat

def quoted (cs : List Char) : List Char :=
  let quote := chooseQuote cs
  quote :: cs.flatMap (escapeChar quote) ++ [quote]

/-- A byte inside quotes. Bytes outside the printable part of ASCII are escaped. -/
def escapeByte (quote : Char) (b : UInt8) : List Char :=
  if b < 0x7f then
    let c := Char.ofNat b.toNat
    if b < 0x20 && c != '\n' && c != '\r' && c != '\t' then '\\' :: 'x' :: Bytes.hexDigits 2 b.toNat
    else escapeChar quote c
  else '\\' :: 'x' :: Bytes.hexDigits 2 b.toNat

def quotedBytes (b : Bytes) : List Char :=
  let quote := chooseQuote (b.map fun x => Char.ofNat x.toNat)
  'b' :: quote :: b.flatMap (escapeByte quote) ++ [quote]

end WideColumn.Text
