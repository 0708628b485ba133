import WideColumn.Location.Address
import WideColumn.Location.Escape
import WideColumn.Location.Label
import WideColumn.Text.Integer

/-!
References: texts that may name a scheme, a host to ask, and a path there. The host may have a user
in front of it and a port behind it, and may be an address in brackets.
-/
namespace WideColumn

inductive NameAction
  | encoding
  | decoding
  deriving DecidableEq, Repr

def NameAction.describe : NameAction → String
  | encoding => "encoding"
  | decoding => "decoding"

inductive LocationError
  | brackets
  | futureAddress
  | bracketedOldAddress
  | notAddress (host : List Char)
  | ambiguous (authority : List Char)
  | port (text : List Char)
  | portRange
  | portDigits (digits : Nat)
  | name (action : NameAction) (error : Location.LabelError)
  deriving DecidableEq, Repr

namespace LocationError

def cause? : LocationError → Option Location.LabelError
  | name _ (.otherSpelling ..) => none
  | name _ e => some e
  | _ => none

def message : LocationError → String
  | brackets => "Invalid IPv6 URL"
  | futureAddress => "IPvFuture address is invalid"
  | bracketedOldAddress => "An IPv4 address cannot be in brackets"
  | notAddress host =>
    String.ofList (Text.quoted host) ++ " does not appear to be an IPv4 or IPv6 address"
  | ambiguous authority =>
    "netloc '" ++ String.ofList authority ++
      "' contains invalid characters under NFKC normalization"
  | port text =>
    "Port could not be cast to integer value as " ++ String.ofList (Text.quoted text)
  | portRange => "Port out of range 0-65535"
  | portDigits digits => (Text.IntegerError.tooLong digits).message
  | name _ e@(.otherSpelling ..) => e.message
  | name action e =>
    action.describe ++ " with 'idna' codec failed (UnicodeError: " ++ e.message ++ ")"

end LocationError

namespace Location

/-- The parts of a text before and after the last occurrence of a character; without one, all of it
is after. -/
def splitLast (separator : Char) (cs : List Char) : Option (List Char) × List Char :=
  let after := (cs.reverse.takeWhile (· ≠ separator)).reverse
  if after.length = cs.length then (none, cs)
  else (some (cs.take (cs.length - after.length - 1)), after)

/-- The parts of a text before and after the first occurrence of a character; without one, all of it
is before. -/
def splitFirst (separator : Char) (cs : List Char) : List Char × Option (List Char) :=
  let before := cs.takeWhile (· ≠ separator)
  (before, if before.length = cs.length then none else some (cs.drop (before.length + 1)))

structure HostText where
  outside : List Char := []
  host : List Char
  after : List Char
  isBracketed : Bool

/-- Takes a text apart into what is in front of the brackets, the host in them, and what follows;
without brackets, into the host and what follows its colon. -/
def HostText.ofText (cs : List Char) : HostText :=
  match splitFirst '[' cs with
  | (outside, some inside) =>
    let (host, after) := splitFirst ']' inside
    ⟨outside, host, after.getD [], true⟩
  | (_, none) =>
    let (host, after) := splitFirst ':' cs
    ⟨[], host, after.getD [], false⟩

def HostText.port (h : HostText) : List Char :=
  if h.isBracketed then (splitFirst ':' h.after).2.getD [] else h.after

def isFutureAddress (host : List Char) : Bool :=
  match splitFirst '.' (host.drop 1) with
  | (version, some (_ :: _)) =>
    !version.isEmpty && version.all fun c => (Bytes.hexValue? c).isSome
  | _ => false

def checkBracketed (host : List Char) : Except LocationError Unit :=
  if host.head? = some 'v' then (if isFutureAddress host then .ok () else .error .futureAddress)
  else if IPv4.isAddress host then .error .bracketedOldAddress
  else if IPv6.isAddress host then .ok ()
  else .error (.notAddress host)

/-- Characters that show one of those that end a host, or the user or the port of one. -/
def ambiguousChars : List Char := "⁇⁈⁉℀℁℅℆⩴︓︖﹕﹖﹟﹫＃／：？＠".toList

/-- Checks the brackets of an authority: they stand around a whole host, which is an address. -/
def checkBrackets (authority : List Char) : Except LocationError Unit :=
  if authority.contains '[' ≠ authority.contains ']' then .error .brackets
  else if !authority.contains '[' then .ok ()
  else
    let h := HostText.ofText (splitLast '@' authority).2
    if h.isBracketed && !(h.outside.isEmpty && h.after.head?.all (· = ':')) then .error .brackets
    else checkBracketed h.host

def checkAuthority (authority : List Char) : Except LocationError Unit := do
  checkBrackets authority
  if authority.any ambiguousChars.contains then throw (.ambiguous authority)

/-- A text taken apart: its scheme in lower case, whom to ask, and the path. -/
structure Reference where
  scheme : List Char := []
  authority : List Char := []
  path : List Char := []
  deriving DecidableEq, Repr

namespace Reference

/-- The text without controls and spaces in front, and without tabs and line breaks. -/
def clean (cs : List Char) : List Char :=
  (cs.dropWhile (· ≤ ' ')).filter fun c => c ≠ '\t' && c ≠ '\n' && c ≠ '\r'

def isSchemeChar (c : Char) : Bool := c.isAlphanum || c = '+' || c = '-' || c = '.'

def splitScheme (cs : List Char) : List Char × List Char :=
  match splitFirst ':' cs with
  | (name, some rest) =>
    if name.head?.any Char.isAlpha && name.all isSchemeChar then (name.map Char.toLower, rest)
    else ([], cs)
  | (_, none) => ([], cs)

def endsPath (c : Char) : Bool := c = '?' || c = '#'

def splitAuthority : List Char → List Char × List Char
  | '/' :: '/' :: rest =>
    let authority := rest.takeWhile fun c => c ≠ '/' && !endsPath c
    (authority, rest.drop authority.length)
  | cs => ([], cs)

def ofText (cs : List Char) : Except LocationError Reference := do
  let (scheme, rest) := splitScheme (clean cs)
  let (authority, rest) := splitAuthority rest
  checkAuthority authority
  return ⟨scheme, authority, rest.takeWhile (!endsPath ·)⟩

end Reference

structure Authority where
  user : List Char := []
  password : List Char := []
  host : List Char := []
  port : List Char := []
  deriving DecidableEq, Repr

namespace Authority

/-- The small letter of a host. The sign for a unit of temperature has an ASCII letter; other
letters lose their size with the rest of their form. -/
def lowerChar (c : Char) : Char := if c = '\u212a' then 'k' else c.toLower

def lowerHost (host : List Char) : List Char :=
  let name := host.takeWhile (· ≠ '%')
  name.map lowerChar ++ host.drop name.length

def ofText (cs : List Char) : Authority :=
  let (account, rest) := splitLast '@' cs
  let (user, password) := splitFirst ':' (account.getD [])
  let h := HostText.ofText rest
  ⟨user, password.getD [], lowerHost h.host, h.port⟩

def maxPort : Nat := 65535

def portNumber (a : Authority) : Except LocationError Nat :=
  if !a.port.all Char.isDigit then .error (.port a.port)
  else if Text.integerDigitLimit < a.port.length then .error (.portDigits a.port.length)
  else
    let n := a.port.foldl (fun n c => 10 * n + (c.toNat - 0x30)) 0
    if n ≤ maxPort then .ok n else .error .portRange

/-- The text of an authority with another name for the host, where user and password are written
anew. A port of zero is left out, and so is a password without a user. -/
def toText (a : Authority) (name : List Char) (write : List Char → List Char) :
    Except LocationError (List Char) := do
  let port ← a.portNumber
  let host := if name.contains ':' then '[' :: name ++ [']'] else name
  let host := if port = 0 then host else host ++ ':' :: Text.natural port
  if a.user.isEmpty then return host
  let password := if a.password.isEmpty then [] else ':' :: write a.password
  return write a.user ++ password ++ '@' :: host

def isPlain (c : Char) : Bool := c.isAlphanum || "_.-~%!$&'()*+,;=".toList.contains c

def isKept (b : UInt8) : Bool :=
  b ≤ 0x20 || b = 0x7f || "%:@/?#".toList.contains (Char.ofNat b.toNat)

def encode (authority : List Char) : Except LocationError (List Char) := do
  let a := ofText authority
  a.toText (← (HostName.toAscii a.host).mapError (.name .encoding)) (escaped isPlain)

def decode (authority : List Char) : Except LocationError (List Char) := do
  let a := ofText authority
  a.toText (← (HostName.ofAscii a.host).mapError (.name .decoding)) (unescapedExcept isKept)

end Authority
end Location
end WideColumn
