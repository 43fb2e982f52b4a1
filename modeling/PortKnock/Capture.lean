import PortKnock.Failure
import PortKnock.Inspection
import PortKnock.OsError

/-!
# Capturing frames

Where the kernel program cannot be used, frames are received from packet
sockets and inspected one by one.  Every frame is received into the same
buffer: a longer one is cut to the size of the buffer, a shorter one leaves the
octets of earlier frames behind it.
-/

namespace PortKnock.Capture

/-- Octets of the receive buffer. -/
def bufferSize : Nat := 2048

/-- What one attempt to receive a frame ends in. -/
inductive Reception
  /-- A frame; `outgoing` ones were sent by this host. -/
  | frame (octets : List UInt8) (outgoing : Bool)
  | failed (cause : OsError)
  deriving DecidableEq, Repr

/-- Whether a failure to receive is none: nothing came in time, or a signal came in between. -/
def isPassing (cause : OsError) : Bool :=
  cause.code == OsError.tryAgain.code || cause.code == OsError.interrupted.code

/-- The only reason for which capturing ends by itself. -/
structure ReceiveError where
  cause : OsError
  deriving DecidableEq, Repr

def ReceiveError.message (error : ReceiveError) : String :=
  "Error receiving frame " ++ error.cause.symbol

def ReceiveError.failure (error : ReceiveError) : Failure :=
  ⟨.capturing, error.message⟩

/-- The receive buffer with the number of frames seen. -/
structure State where
  buffer : List UInt8 := List.replicate bufferSize 0
  /-- Counted in 64 bits. -/
  framesSeen : UInt64 := 0
  deriving DecidableEq, Repr

/-- Receives a frame into a buffer; the number tells how many octets of the buffer are its. -/
def receiveInto (buffer frame : List UInt8) : List UInt8 × Nat :=
  let kept := frame.take bufferSize
  (kept ++ buffer.drop kept.length, kept.length)

/-- Receives and inspects frames until the stop flag is seen or receiving fails.  The list holds
what each attempt ends in; its end is where the stop flag is seen. -/
def loop {m : Type → Type} [Monad m] (filter : Filter) (sink : Sink m) (state : State) :
    List Reception → m (Option ReceiveError × State)
  | [] => return (none, state)
  | .failed cause :: rest =>
    if isPassing cause then loop filter sink state rest
    else return (some ⟨cause⟩, state)
  | .frame octets outgoing :: rest =>
    let (buffer, length) := receiveInto state.buffer octets
    if outgoing then
      loop filter sink { state with buffer } rest
    else do
      let _ ← inspect filter sink (buffer.take length)
      loop filter sink { buffer, framesSeen := state.framesSeen + 1 } rest

/-! ## Packet sockets -/

/-- Where a packet socket is bound to. -/
structure LinkAddress where
  /-- The number of the interface; the kernel takes it as a signed one. -/
  interfaceIndex : Int32
  /-- The protocol in network order, as a machine of the opposite order reads it. -/
  protocol : UInt16
  packetType : UInt8 := 0
  hardwareLength : UInt8 := 0
  hardwareType : UInt16 := 0
  deriving DecidableEq, Repr

/-- All protocols. -/
def protocolAll : UInt16 := 3

/-- The address that binds a socket to an interface for all protocols. -/
def LinkAddress.ofInterface (index : UInt32) : LinkAddress where
  interfaceIndex := index.toInt32
  protocol := (protocolAll <<< 8) ||| (protocolAll >>> 8)

/-- Frames are spread over the sockets of a group by their flow. -/
def fanoutHash : UInt32 := 0

/-- The argument by which a socket joins a group. -/
def fanoutArgument (group : UInt16) : UInt32 :=
  group.toUInt32 ||| (fanoutHash <<< 16)

end PortKnock.Capture
