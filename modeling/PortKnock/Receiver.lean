import PortKnock.Knock
import PortKnock.Log
import PortKnock.OsError

/-!
# Receiving knocks

The receiver drains records, counts and logs them and collects their lines in a
buffer.  A buffer that has reached `batchSize` octets is handed to the writer
at once, a smaller one at every tick of the clock and at the end, so a line is
never split over two batches.

The writer makes one attempt per batch.  A batch whose write fails is lost and
logged; counting goes on as if nothing had happened.
-/

namespace PortKnock

/-- Octets from which on a buffer is handed to the writer. -/
def batchSize : Nat := 65536

structure Receiver where
  /-- Lines not yet handed over. -/
  pending : String := ""
  /-- Batches handed to the writer, oldest first. -/
  batches : Array String := #[]
  /-- Records that were knocks, counted in 64 bits. -/
  read : UInt64 := 0
  /-- Records that were not. -/
  lost : UInt64 := 0
  log : Array Log.Line := #[]
  deriving DecidableEq, Repr

namespace Receiver

def report (receiver : Receiver) (text : String) : Receiver :=
  { receiver with log := receiver.log.push ⟨.info, .receiver, text⟩ }

/-- Hands the buffer to the writer unless it is empty. -/
def flush (receiver : Receiver) : Receiver :=
  if receiver.pending.isEmpty then receiver
  else { receiver with pending := "", batches := receiver.batches.push receiver.pending }

/-- Hands the buffer to the writer if it is full. -/
def flushFull (receiver : Receiver) : Receiver :=
  if receiver.pending.utf8ByteSize ≥ batchSize then receiver.flush else receiver

/-- The log line of a knock. -/
def announcement (knock : Knock) : String :=
  "knock from " ++ Ipv4.dotted knock.source ++ " on port " ++ toString knock.port.toNat

/-- Takes one record in. -/
def take (receiver : Receiver) (record : List UInt8) : Receiver :=
  match Knock.decode? record with
  | some knock =>
    let receiver := receiver.report (announcement knock)
    flushFull { receiver with
      read := receiver.read + 1
      pending := receiver.pending ++ knock.line }
  | none => { receiver with lost := receiver.lost + 1 }

/-- Takes in the records of one drain. -/
def drain (receiver : Receiver) (records : List (List UInt8)) : Receiver :=
  records.foldl take receiver

/-- What wakes the receiver before the end. -/
inductive Wakeup
  /-- The source has records. -/
  | records (records : List (List UInt8))
  /-- The clock ticks. -/
  | tick
  deriving DecidableEq, Repr

def wake (receiver : Receiver) : Wakeup → Receiver
  | .records records => receiver.drain records
  | .tick => receiver.flush

/-- The line that closes the log. -/
def summary (receiver : Receiver) : String :=
  "Knocks lost: " ++ toString receiver.lost.toNat ++
    ", Knocks read: " ++ toString receiver.read.toNat

/-- Ends the work: the records that are there by now still count. -/
def finish (receiver : Receiver) (records : List (List UInt8)) : Receiver :=
  let receiver := (receiver.drain records).flush
  receiver.report receiver.summary

/-- A whole life: wakeups in their order, then the end with the records found there. -/
def run (wakeups : List Wakeup) (remaining : List (List UInt8)) : Receiver :=
  (wakeups.foldl wake {}).finish remaining

/-- Why receiving could not start. -/
structure RegisterError where
  cause : OsError
  deriving DecidableEq, Repr

def RegisterError.message (error : RegisterError) : String :=
  "failed to register ring buffer fd: " ++ error.cause.message

end Receiver

/-! ## Writing batches -/

/-- What the writer has done. -/
structure Delivery where
  /-- Batches written, oldest first. -/
  written : Array String := #[]
  /-- Write calls, failed ones included. -/
  writes : Nat := 0
  flushes : Nat := 0
  log : Array Log.Line := #[]
  deriving DecidableEq, Repr

namespace Delivery

/-- Writes one batch; `failure` tells what the output answers to the n-th write, if not success.
The output is flushed either way. -/
def write (failure : Nat → Option String) (delivery : Delivery) (batch : String) : Delivery :=
  match failure delivery.writes with
  | none => { delivery with
      written := delivery.written.push batch
      writes := delivery.writes + 1
      flushes := delivery.flushes + 1 }
  | some cause => { delivery with
      writes := delivery.writes + 1
      flushes := delivery.flushes + 1
      log := delivery.log.push ⟨.error, .receiver, "Error writing knocks: " ++ cause⟩ }

/-- Writes batches in their order. -/
def run (failure : Nat → Option String) (batches : List String) : Delivery :=
  batches.foldl (write failure) {}

/-- All that was written. -/
def text (delivery : Delivery) : String :=
  delivery.written.foldl (· ++ ·) ""

end Delivery

end PortKnock
