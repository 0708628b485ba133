import WideColumn.Location.Reference

/-!
Locations of pages, as they are asked for. A location may have a scheme and a host in front of its
path, and a query or a fragment after it.
-/
namespace WideColumn

/-- A location: its scheme in lower case, the host that is asked, and the path there. -/
structure Location where
  scheme : List Char := []
  host : List Char := []
  path : List Char := []
  deriving DecidableEq, Repr

namespace Location

/-- A path whose escapes are replaced, with exactly one slash in front unless it is empty. -/
def plainPath (cs : List Char) : List Char :=
  match unescaped cs with
  | [] => []
  | c :: rest => '/' :: (c :: rest).dropWhile (· = '/')

def Reference.encode (r : Reference) : Except LocationError (List Char) := do
  let authority ← Authority.encode r.authority
  let rest := if authority.isEmpty then r.path else '/' :: '/' :: authority ++ r.path
  return if r.scheme.isEmpty then rest else r.scheme ++ ':' :: rest

def defaultHost : List Char := "localhost".toList

def usualPort (scheme : List Char) : List Char :=
  let scheme := String.ofList scheme
  if scheme = "" || scheme = "http" || scheme = "ws" then ":80".toList
  else if scheme = "https" || scheme = "wss" then ":443".toList
  else []

def dropUsualPort (scheme host : List Char) : List Char :=
  let port := usualPort scheme
  if port.isSuffixOf host then host.take (host.length - port.length) else host

/-- The location that is asked for. What is left of the text after its scheme and its host may have
both again, but only the first ones count; the third ones belong to the path. The host has to be one
both in ASCII and as it is shown. -/
def ofText (text : String) : Except LocationError Location := do
  let outer ← Reference.ofText text.toList
  let inner ← Reference.ofText outer.path
  let path ← (← Reference.ofText inner.path).encode
  let authority ←
    Authority.encode (if outer.authority.isEmpty then defaultHost else outer.authority)
  checkAuthority authority
  let host := dropUsualPort outer.scheme authority
  checkAuthority (← Authority.decode host)
  return ⟨outer.scheme, host, plainPath path⟩

/-- Whether the scheme is one of lasting connections, over which there are no pages. -/
def isLasting (l : Location) : Bool :=
  l.scheme = "ws".toList || l.scheme = "wss".toList

def isNamed (l : Location) : Bool := (HostName.checkAscii (splitFirst ':' l.host).1).toBool

end Location
end WideColumn
