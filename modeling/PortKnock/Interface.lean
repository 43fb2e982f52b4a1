import PortKnock.Frame
import PortKnock.IpAddress

/-!
# Network interfaces

Which interface to listen on when none is named.  `Interface.default?` narrows
the list stage by stage, to Ethernet, to usable ones, to those with an IPv4
address and to those with a public one, and takes the first interface of the
last stage that is not empty.
-/

namespace PortKnock

structure Interface where
  name : String
  mac : Option MacAddress
  flags : UInt32
  addresses : List IpAddress
  deriving DecidableEq, Repr

namespace Interface

/-! ## What an interface is good for -/

def isUp (interface : Interface) : Bool := interface.flags &&& 1 != 0

def isLoopback (interface : Interface) : Bool := interface.flags &&& 8 != 0

def isRunning (interface : Interface) : Bool := interface.flags &&& 64 != 0

/-- It has an Ethernet address that is not all zeros. -/
def isEthernet (interface : Interface) : Bool :=
  match interface.mac with
  | some mac => mac.toList.any (· != 0)
  | none => false

def isUsable (interface : Interface) : Bool :=
  interface.isEthernet && interface.isUp && interface.isRunning && !interface.isLoopback

def ipv4Addresses (interface : Interface) : List UInt32 :=
  interface.addresses.filterMap fun
    | .v4 address => some address
    | .v6 _ => none

def hasIpv4 (interface : Interface) : Bool :=
  !interface.ipv4Addresses.isEmpty

/-- It has an IPv4 address that is neither private nor link-local. -/
def hasPublicIpv4 (interface : Interface) : Bool :=
  interface.ipv4Addresses.any fun address =>
    !Ipv4.isPrivate address && !Ipv4.isLinkLocal address

/-! ## The default interface -/

/-- The first of `candidates` after narrowing them by each stage in turn, as long as a stage
leaves any; `fallback` if there are no candidates to begin with. -/
def narrow (fallback : Interface) (candidates : List Interface) :
    (stages : List (Interface → Bool)) → Interface
  | [] => candidates.headD fallback
  | stage :: stages =>
    match candidates.filter stage with
    | [] => candidates.headD fallback
    | first :: rest => narrow first (first :: rest) stages

/-- The interface to listen on when none is named. -/
def default? : List Interface → Option Interface
  | [] => none
  | first :: rest =>
    some (narrow first (first :: rest) [isEthernet, isUsable, hasIpv4, hasPublicIpv4])

/-- A name that is given is taken as it is; otherwise the default interface of the host is. -/
def resolveName? (interfaces : List Interface) (name : String) : Option String :=
  if name.isEmpty then (default? interfaces).map (·.name) else some name

end Interface

end PortKnock
