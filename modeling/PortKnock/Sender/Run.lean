import PortKnock.Exit
import PortKnock.IpAddress
import PortKnock.Log.Filter
import PortKnock.OsError
import PortKnock.Sender.CommandLine

/-!
# Sending knocks

One empty datagram per port, in the order of the ports and with a pause between
two of them.  The first datagram that cannot be sent ends the sequence.
-/

namespace PortKnock.Sender

/-- What the sender asks of the machine it runs on. -/
structure Network (m : Type → Type) where
  /-- The addresses of a host name, or why there are none. -/
  lookUp : String → m (Except String (List IpAddress))
  /-- Sends an empty datagram to an address and a port. -/
  send : UInt32 → UInt16 → m (Except OsError Unit)
  /-- Waits for some milliseconds. -/
  pause : UInt64 → m Unit
  log : Log.Reporter m

/-- A machine without any route.  Port zero is refused before a route is looked for. -/
def Network.isolated {m : Type → Type} [Monad m] (log : Log.Reporter m) : Network m where
  lookUp _ :=
    return .error "failed to lookup address information: Temporary failure in name resolution"
  send _ port := return .error (if port = 0 then .invalidArgument else .networkUnreachable)
  pause _ := return ()
  log

def say (text : String) : Log.Line := ⟨.info, .sender, text⟩

/-- Ports between brackets. -/
def portsText (ports : List UInt16) : String :=
  "[" ++ ", ".intercalate (ports.map fun port => toString port.toNat) ++ "]"

/-- An address and a port. -/
def endpointText (target : UInt32) (port : UInt16) : String :=
  Ipv4.dotted target ++ ":" ++ toString port.toNat

/-! ## The target -/

/-- Why a host cannot be knocked at. -/
inductive TargetError
  | unknownHost (host cause : String)
  | noIpv4 (host : String)
  deriving DecidableEq, Repr

def TargetError.defeat : TargetError → Defeat
  | unknownHost host cause => ⟨some ("failed to resolve " ++ host), cause⟩
  | noIpv4 host => ⟨none, host ++ " has no IPv4 address"⟩

/-- The first IPv4 address of a host. -/
def firstTarget (host : String) (addresses : List IpAddress) : Except TargetError UInt32 :=
  match addresses.findSome? fun
      | .v4 address => some address
      | .v6 _ => none with
  | some address => .ok address
  | none => .error (.noIpv4 host)

variable {m : Type → Type} [Monad m]

/-- The address to knock at.  A host that is written as an address is not looked up. -/
def target (network : Network m) (host : String) : m (Except TargetError UInt32) := do
  match IpAddress.ofText? host with
  | some address => return firstTarget host [address]
  | none =>
    match ← network.lookUp host with
    | .error cause => return .error (.unknownHost host cause)
    | .ok addresses => return firstTarget host addresses

/-! ## The sequence -/

/-- Knocks at one port. -/
def knock (network : Network m) (target : UInt32) (port : UInt16) : m (Except Defeat Unit) := do
  match ← network.send target port with
  | .error error =>
    return .error ⟨some ("failed to knock " ++ endpointText target port), error.message⟩
  | .ok () =>
    network.log.line (say ("knocked " ++ endpointText target port))
    return .ok ()

/-- Knocks at ports behind a knock that has been made. -/
def knockOn (network : Network m) (jitter : UInt64) (target : UInt32) :
    List UInt16 → m (Except Defeat Unit)
  | [] => return .ok ()
  | port :: ports => do
    network.pause jitter
    match ← knock network target port with
    | .error defeat => return .error defeat
    | .ok () => knockOn network jitter target ports

/-- Knocks at all ports. -/
def knockAll (network : Network m) (jitter : UInt64) (target : UInt32) :
    List UInt16 → m (Except Defeat Unit)
  | [] => return .ok ()
  | port :: ports => do
    match ← knock network target port with
    | .error defeat => return .error defeat
    | .ok () => knockOn network jitter target ports

/-- Carries out an order. -/
def carryOut (network : Network m) (order : Order) : m (Except Defeat Unit) := do
  match ← target network order.host with
  | .error error => return .error error.defeat
  | .ok address =>
    network.log.line (say ("Transmitting knock sequence " ++ portsText order.ports ++ " to "
      ++ Ipv4.dotted address))
    knockAll network order.jitter address order.ports

/-- Runs the sender with the given arguments. -/
def run (network : Network m) (arguments : List String) : m Exit := do
  match Order.ofArguments arguments with
  | .error stop => return .ofStop stop
  | .ok order =>
    network.log.start
    match ← carryOut network order with
    | .error defeat => return .ofDefeat defeat
    | .ok () => return .success ""

end PortKnock.Sender
