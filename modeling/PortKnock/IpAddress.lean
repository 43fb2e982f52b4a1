import PortKnock.Octets

/-!
# IP addresses

Addresses as numbers and as text.  An IPv4 address is a 32 bit number, written
in dotted decimal with the most significant octet first.  IPv6 addresses only
have to be told apart from IPv4 ones, so they keep their eight groups and no
printer.
-/

namespace PortKnock

open Octets

inductive IpAddress
  | v4 (address : UInt32)
  | v6 (groups : List UInt16)
  deriving DecidableEq, Repr

namespace Ipv4

/-- Dotted decimal. -/
def dotted (address : UInt32) : String :=
  ".".intercalate ((ofNatBE 4 address.toNat).map fun octet => toString octet.toNat)

/-- A decimal octet: one to three digits, no leading zero, at most 255. -/
def readOctet? (text : String) : Option UInt8 :=
  let digits := text.toList
  if digits.isEmpty || digits.length > 3 || !digits.all Char.isDigit
      || (digits.head? == some '0' && digits.length > 1) then none
  else
    let value := digits.foldl (fun value digit => 10 * value + (digit.toNat - '0'.toNat)) 0
    if value ≤ 255 then some (UInt8.ofNat value) else none

/-- Reads dotted decimal. -/
def ofDotted? (text : String) : Option UInt32 := do
  let octets ← (text.splitOn ".").mapM readOctet?
  if octets.length = 4 then some (UInt32.ofNat (toNatBE octets)) else none

/-- Whether `address` starts with the `length` bits of `network`. -/
def inNetwork (network : UInt32) (length : Nat) (address : UInt32) : Bool :=
  address.toNat >>> (32 - length) == network.toNat >>> (32 - length)

/-- 10.0.0.0/8, 172.16.0.0/12 and 192.168.0.0/16. -/
def isPrivate (address : UInt32) : Bool :=
  inNetwork 0x0a000000 8 address || inNetwork 0xac100000 12 address
    || inNetwork 0xc0a80000 16 address

/-- 169.254.0.0/16. -/
def isLinkLocal (address : UInt32) : Bool :=
  inNetwork 0xa9fe0000 16 address

end Ipv4

namespace Ipv6

def hexDigit? (c : Char) : Option Nat :=
  if c.isDigit then some (c.toNat - '0'.toNat)
  else if 'a' ≤ c ∧ c ≤ 'f' then some (c.toNat - 'a'.toNat + 10)
  else if 'A' ≤ c ∧ c ≤ 'F' then some (c.toNat - 'A'.toNat + 10)
  else none

/-- A group of one to four hexadecimal digits. -/
def readGroup? (text : String) : Option UInt16 := do
  let digits ← text.toList.mapM hexDigit?
  if digits.isEmpty || digits.length > 4 then none
  else some (UInt16.ofNat (digits.foldl (fun value digit => 16 * value + digit) 0))

/-- Groups between single colons.  The last one may be an IPv4 address, which counts for two
groups, where `embedded` allows it. -/
def readGroups? (embedded : Bool) : List String → Option (List UInt16)
  | [] => some []
  | [last] =>
    match Ipv4.ofDotted? last with
    | some address =>
      if embedded then
        some [UInt16.ofNat (address.toNat / 65536), UInt16.ofNat address.toNat]
      else none
    | none => (readGroup? last).map ([·])
  | group :: rest => do
    let first ← readGroup? group
    let others ← readGroups? embedded rest
    return first :: others

/-- Groups of one side of a double colon, which may be empty. -/
def readSide? (embedded : Bool) (side : String) : Option (List UInt16) :=
  if side.isEmpty then some [] else readGroups? embedded (side.splitOn ":")

/-- Reads eight groups, or fewer with a double colon in place of at least one group of zero. -/
def ofText? (text : String) : Option (List UInt16) := do
  match text.splitOn "::" with
  | [whole] =>
    let groups ← readSide? true whole
    if groups.length = 8 then some groups else none
  | [head, tail] =>
    let front ← readSide? false head
    let back ← readSide? true tail
    if front.length + back.length ≤ 7 then
      some (front ++ List.replicate (8 - front.length - back.length) 0 ++ back)
    else none
  | _ => none

end Ipv6

/-- Reads an address of either kind. -/
def IpAddress.ofText? (text : String) : Option IpAddress :=
  match Ipv4.ofDotted? text with
  | some address => some (.v4 address)
  | none => (Ipv6.ofText? text).map .v6

end PortKnock
