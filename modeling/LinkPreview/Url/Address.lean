import LinkPreview.Text.Hex
import LinkPreview.Text.Pieces

set_option autoImplicit false

namespace LinkPreview.Url
open Text

def isOctet (cs : List Char) : Bool :=
  !cs.isEmpty && cs.length ≤ 3 && cs.all Char.isDigit && (cs.head? != some '0' || cs.length == 1) &&
    cs.foldl (fun n c => 10 * n + (c.toNat - 48)) 0 ≤ 255

def isIPv4 (cs : List Char) : Bool :=
  let octets := splitAt '.' cs
  octets.length == 4 && octets.all isOctet

def isHextet (cs : List Char) : Bool := !cs.isEmpty && cs.length ≤ 4 && cs.all isHexDigit

/-- The groups of an IPv6 address; an IPv4 address at the end stands for the last two. -/
def groups? (cs : List Char) : Option (List (List Char)) :=
  let parts := splitAt ':' cs
  let last := parts.getLastD []
  if parts.length < 3 then none
  else if last.contains '.' then
    if isIPv4 last then some (parts.dropLast ++ [['0'], ['0']]) else none
  else some parts

def isSide (side : List (List Char)) : Bool := side.all isHextet || side == [[]]

def isCutAt (groups : List (List Char)) (i : Nat) : Bool :=
  let high := groups.take i
  let low := groups.drop (i + 1)
  let written := (high.filter (!·.isEmpty)).length + (low.filter (!·.isEmpty)).length
  isSide high && isSide low && written < 8

/-- Eight groups, or fewer and one double colon. -/
def isGroups (groups : List (List Char)) : Bool :=
  let inner := (List.range groups.length).filter fun i =>
    0 < i && i + 1 < groups.length && (groups.getD i []).isEmpty
  groups.length ≤ 9 &&
    match inner with
    | [] => groups.length == 8 && groups.all isHextet
    | [i] => isCutAt groups i
    | _ => false

/-- A zone may follow a percent sign; it is not empty and has no percent sign of its own. -/
def isIPv6 (cs : List Char) : Bool :=
  let zone := after '%' cs
  (!cs.contains '%' || (!zone.isEmpty && !zone.contains '%')) &&
    match groups? (before '%' cs) with
    | some groups => isGroups groups
    | none => false

def isFutureAddress (cs : List Char) : Bool :=
  match cs with
  | 'v' :: rest =>
    let digits := rest.takeWhile isHexDigit
    !digits.isEmpty &&
      match rest.drop digits.length with
      | '.' :: address => !address.isEmpty
      | _ => false
  | _ => false

end LinkPreview.Url
