import PortKnock.Octets

/-!
# Frames and their headers

A knock is an Ethernet frame that carries an IPv4 header of twenty octets, a
UDP header and nothing else.  This file lays out the three headers and reads
them from fixed places of the frame: options are never parsed, and no field but
the protocol number (and on request the EtherType) is looked at on the way.
`Frame.headers?` is the whole test of what counts as a knock.
-/

namespace PortKnock

open Octets

/-- Six octets of an Ethernet address. -/
abbrev MacAddress := Vector UInt8 6

/-- EtherType of IPv4. -/
def etherTypeIpv4 : UInt16 := 0x0800

/-- IP protocol number of UDP. -/
def protocolUdp : UInt8 := 17

/-- The `length` octets that start at `offset`, fewer at the end of the list. -/
def octetsAt (octets : List UInt8) (offset length : Nat) : List UInt8 :=
  (octets.drop offset).take length

/-- The octet at `offset`, zero past the end. -/
def octetAt (octets : List UInt8) (offset : Nat) : UInt8 :=
  octets.getD offset 0

/-- The 16 bit number at `offset`, most significant octet first. -/
def wordAt (octets : List UInt8) (offset : Nat) : UInt16 :=
  UInt16.ofNat (toNatBE (octetsAt octets offset 2))

/-- The 32 bit number at `offset`, most significant octet first. -/
def longAt (octets : List UInt8) (offset : Nat) : UInt32 :=
  UInt32.ofNat (toNatBE (octetsAt octets offset 4))

/-- The Ethernet address at `offset`, filled up with zeros past the end. -/
def macAt (octets : List UInt8) (offset : Nat) : MacAddress :=
  #v[octetAt octets offset, octetAt octets (offset + 1), octetAt octets (offset + 2),
    octetAt octets (offset + 3), octetAt octets (offset + 4), octetAt octets (offset + 5)]

/-! ## Header layouts -/

/-- Ethernet header, 14 octets. -/
structure EthernetHeader where
  destination : MacAddress
  source : MacAddress
  etherType : UInt16
  deriving DecidableEq, Repr

namespace EthernetHeader

def length : Nat := 14

def ofOctets (octets : List UInt8) : EthernetHeader where
  destination := macAt octets 0
  source := macAt octets 6
  etherType := wordAt octets 12

/-- The fields laid out in order. -/
def toOctets (header : EthernetHeader) : List UInt8 :=
  header.destination.toList ++ header.source.toList ++ ofNatBE 2 header.etherType.toNat

end EthernetHeader

/-- IPv4 header without options, 20 octets. -/
structure Ipv4Header where
  versionAndLength : UInt8
  serviceType : UInt8
  totalLength : UInt16
  identification : UInt16
  fragment : UInt16
  timeToLive : UInt8
  protocol : UInt8
  checksum : UInt16
  source : UInt32
  destination : UInt32
  deriving DecidableEq, Repr

namespace Ipv4Header

def length : Nat := 20

def ofOctets (octets : List UInt8) : Ipv4Header where
  versionAndLength := octetAt octets 0
  serviceType := octetAt octets 1
  totalLength := wordAt octets 2
  identification := wordAt octets 4
  fragment := wordAt octets 6
  timeToLive := octetAt octets 8
  protocol := octetAt octets 9
  checksum := wordAt octets 10
  source := longAt octets 12
  destination := longAt octets 16

/-- The fields laid out in order. -/
def toOctets (header : Ipv4Header) : List UInt8 :=
  [header.versionAndLength, header.serviceType] ++ ofNatBE 2 header.totalLength.toNat
    ++ ofNatBE 2 header.identification.toNat ++ ofNatBE 2 header.fragment.toNat
    ++ [header.timeToLive, header.protocol] ++ ofNatBE 2 header.checksum.toNat
    ++ ofNatBE 4 header.source.toNat ++ ofNatBE 4 header.destination.toNat

end Ipv4Header

/-- UDP header, 8 octets. -/
structure UdpHeader where
  source : UInt16
  destination : UInt16
  length : UInt16
  checksum : UInt16
  deriving DecidableEq, Repr

namespace UdpHeader

/-- Octets that a UDP header takes, not to be confused with its `length` field. -/
def size : Nat := 8

def ofOctets (octets : List UInt8) : UdpHeader where
  source := wordAt octets 0
  destination := wordAt octets 2
  length := wordAt octets 4
  checksum := wordAt octets 6

/-- The fields laid out in order. -/
def toOctets (header : UdpHeader) : List UInt8 :=
  ofNatBE 2 header.source.toNat ++ ofNatBE 2 header.destination.toNat
    ++ ofNatBE 2 header.length.toNat ++ ofNatBE 2 header.checksum.toNat

end UdpHeader

/-! ## Reading a frame -/

/-- Which frames are accepted besides the fixed header checks. -/
structure Filter where
  /-- Insist on the EtherType of IPv4. -/
  strictEtherType : Bool := false
  deriving DecidableEq, Repr

/-- The headers of a knock frame, with the length of the whole frame. -/
structure Headers where
  ethernet : EthernetHeader
  ipv4 : Ipv4Header
  udp : UdpHeader
  frameLength : Nat
  deriving DecidableEq, Repr

namespace Frame

/-- The three headers and no payload. -/
def minLength : Nat := EthernetHeader.length + Ipv4Header.length + UdpHeader.size

/-- The shortest Ethernet frame with its padding: anything longer carries a payload. -/
def maxLength : Nat := 60

/-- The octets of a header of `length` octets at `offset`, if the frame reaches that far. -/
def headerAt? (frame : List UInt8) (offset length : Nat) : Option (List UInt8) :=
  if offset + length ≤ frame.length then some (octetsAt frame offset length) else none

/-- The headers of a frame that counts as a knock. -/
def headers? (filter : Filter) (frame : List UInt8) : Option Headers :=
  if frame.length > maxLength then none else do
    let ethernet ← (headerAt? frame 0 EthernetHeader.length).map EthernetHeader.ofOctets
    if filter.strictEtherType && ethernet.etherType != etherTypeIpv4 then none else do
      let ipv4 ← (headerAt? frame EthernetHeader.length Ipv4Header.length).map Ipv4Header.ofOctets
      if ipv4.protocol != protocolUdp then none else do
        let udp ← (headerAt? frame (EthernetHeader.length + Ipv4Header.length)
          UdpHeader.size).map UdpHeader.ofOctets
        return { ethernet, ipv4, udp, frameLength := frame.length }

end Frame

end PortKnock
