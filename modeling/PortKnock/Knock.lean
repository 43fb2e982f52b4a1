import PortKnock.IpAddress

/-!
# Knocks

What is kept of a knock frame: who sent it and which port it was sent to.  A
knock travels through the ring as a record of eight octets (`encode`,
`decode?`) and leaves the program as one line of text (`line`).

Three octet orders meet in the record: the address is stored least significant
octet first, the port as it stood on the wire, most significant octet first.
-/

namespace PortKnock

open Octets

/-- One knock. -/
structure Knock where
  /-- Address of the sender. -/
  source : UInt32
  /-- Port that was knocked on. -/
  port : UInt16
  /-- Two octets that fill the record up to eight; zero in every record written here. -/
  reserved : UInt16 := 0
  deriving DecidableEq, Repr

namespace Knock

/-- Octets of a record. -/
def recordSize : Nat := 8

/-- The port as it stands on the wire. -/
def portOctets (knock : Knock) : List UInt8 :=
  ofNatBE 2 knock.port.toNat

def reservedOctets (knock : Knock) : List UInt8 :=
  ofNatBE 2 knock.reserved.toNat

/-- The record of a knock. -/
def encode (knock : Knock) : List UInt8 :=
  ofNatLE 4 knock.source.toNat ++ knock.portOctets ++ knock.reservedOctets

/-- The knock of a record; anything but eight octets is no record. -/
def decode? : List UInt8 → Option Knock
  | [a, b, c, d, p, q, r, s] => some {
      source := UInt32.ofNat (toNatLE [a, b, c, d])
      port := UInt16.ofNat (toNatBE [p, q])
      reserved := UInt16.ofNat (toNatBE [r, s]) }
  | _ => none

/-- The line that reports a knock: address, comma, port, newline. -/
def line (knock : Knock) : String :=
  Ipv4.dotted knock.source ++ "," ++ toString knock.port.toNat ++ "\n"

/-- The lines of several knocks, one after the other. -/
def lines (knocks : List Knock) : String :=
  knocks.foldl (fun text knock => text ++ knock.line) ""

end Knock

end PortKnock
