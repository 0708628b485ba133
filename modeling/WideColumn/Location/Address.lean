import WideColumn.Bytes.Basic
import WideColumn.Text.Blank

/-!
Addresses of hosts in figures. An address of the sixth version is eight groups of hexadecimal
digits, of which one row of zeros may be left out; the last two may be an address of the fourth.
-/
namespace WideColumn.Location

namespace IPv4

def isOctet (cs : List Char) : Bool :=
  !cs.isEmpty && cs.length ≤ 3 && cs.all Char.isDigit && (cs = ['0'] || cs.head? ≠ some '0') &&
    cs.foldl (fun n c => 10 * n + (c.toNat - 0x30)) 0 ≤ 255

def isAddress (cs : List Char) : Bool :=
  let octets := Text.splitOn '.' cs
  octets.length = 4 && octets.all isOctet

end IPv4

namespace IPv6

def groupCount : Nat := 8

def isGroup (cs : List Char) : Bool :=
  !cs.isEmpty && cs.length ≤ 4 && cs.all fun c => (Bytes.hexValue? c).isSome

def dropZone? (cs : List Char) : Option (List Char) :=
  let address := cs.takeWhile (· ≠ '%')
  match cs.drop address.length with
  | [] => some address
  | _ :: zone => if zone.isEmpty || zone.contains '%' then none else some address

/-- The groups of a text, where an address of the fourth version at the end counts as two. -/
def groups? (cs : List Char) : Option (List (List Char)) :=
  let groups := Text.splitOn ':' cs
  let last := groups.getLast?.getD []
  if groups.length < 3 then none
  else if !last.contains '.' then some groups
  else if IPv4.isAddress last then some (groups.dropLast ++ [['0'], ['0']])
  else none

/-- Whether groups on one side of those left out are all there. A single empty one at the end of
the text says that there are none. -/
def isSide (groups : List (List Char)) : Bool := groups = [[]] || groups.all isGroup

def sideLength (groups : List (List Char)) : Nat := if groups = [[]] then 0 else groups.length

def isAddress (cs : List Char) : Bool :=
  match (dropZone? cs).bind groups? with
  | none => false
  | some groups =>
    let before := (groups.drop 1).takeWhile (!·.isEmpty)
    let left := groups.take (before.length + 1)
    match groups.drop (before.length + 1) with
    | _ :: right@(_ :: _) =>
      isSide left && isSide right && sideLength left + sideLength right < groupCount
    | _ => groups.length = groupCount && groups.all isGroup

end IPv6
end WideColumn.Location
