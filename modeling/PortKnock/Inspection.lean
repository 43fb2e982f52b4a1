import PortKnock.Frame
import PortKnock.Knock

/-!
# Inspecting frames

`classify` turns a frame into the knock it carries, if it carries one, and
`inspect` hands that knock to a sink.  Inspection never holds a frame back:
its verdict is `pass` whatever the sink answers, so a full sink costs the
knock and not the traffic.
-/

namespace PortKnock

/-- Why a sink turned a record away. -/
inductive Refusal
  /-- The reader has not released enough space. -/
  | full
  /-- Other writers kept winning the reservation. -/
  | contended
  | tooLarge
  | empty
  deriving DecidableEq, Repr

/-- Never signal the reader. -/
def noWakeup : UInt64 := 1

/-- Always signal the reader. -/
def forceWakeup : UInt64 := 2

/-- Where knocks are published; `m` is what publishing one may touch. -/
structure Sink (m : Type → Type) where
  publish : (knock : Knock) → (flags : UInt64) → m (Except Refusal Unit)

/-- What becomes of an inspected frame. -/
inductive Verdict
  | pass
  deriving DecidableEq, Repr

/-- The knock that these headers announce. -/
def Knock.ofHeaders (headers : Headers) : Knock where
  source := headers.ipv4.source
  port := headers.udp.destination

/-- The knock in a frame, if the frame is one. -/
def classify (filter : Filter) (frame : List UInt8) : Option Knock :=
  (Frame.headers? filter frame).map Knock.ofHeaders

/-- Publishes the knock in a frame, if there is one, and lets the frame pass. -/
def inspect {m : Type → Type} [Monad m] (filter : Filter) (sink : Sink m)
    (frame : List UInt8) : m Verdict :=
  match classify filter frame with
  | none => return .pass
  | some knock => do
    let _ ← sink.publish knock forceWakeup
    return .pass

end PortKnock
