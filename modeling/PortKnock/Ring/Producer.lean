import PortKnock.Ring.Access
import PortKnock.Inspection

/-!
# Writing records

A writer reserves room by moving the producer position, copies its payload and
commits the header last, so that the reader never sees half a record.  A
reservation is tried a fixed number of times: `output` ends whatever the other
writers do.
-/

namespace PortKnock.Ring

open Octets Access

/-- Lost swaps after which a record is given up. -/
def reserveAttempts : Nat := 256

/-- Difference of two positions, zero if the first one lags behind. -/
def distance (head tail : UInt64) : UInt64 :=
  if tail ≤ head then head - tail else 0

section

variable {m : Type → Type} [Monad m] [MonadLiftT Access m] (arithmetic : Arithmetic m)

/-- Tries to reserve `total` octets at `head`, the producer position as last seen.  A stale `head`
may lag behind the reader; the swap turns it down then. -/
def reserveFromBy (byteSize total : UInt64) : (attempts : Nat) → (head : UInt64) →
    m (Except Refusal UInt64)
  | 0, _ => pure (.error .contended)
  | attempts + 1, head => do
    let tail ← loadConsumer
    let claimed ← arithmetic.sum (distance head tail) total
    if claimed > byteSize then
      return .error .full
    let behind ← arithmetic.sum head total
    match ← swapProducer head behind with
    | none => return .ok head
    | some current => reserveFromBy byteSize total attempts current

/-- Reserves `total` octets and answers with their position; gives up after `attempts` lost
swaps. -/
def reserveWithinBy (byteSize total : UInt64) (attempts : Nat) : m (Except Refusal UInt64) := do
  let head ← loadProducer
  reserveFromBy arithmetic byteSize total attempts head

/-- Stores octets word by word from a position on, the last word filled up with zeros. -/
def storeOctetsBy (pos : UInt64) (octets : List UInt8) : m Unit :=
  match octets with
  | [] => pure ()
  | first :: rest => do
    storeWord pos (UInt64.ofNat (toNatLE ((first :: rest).take 8)))
    let behind ← arithmetic.sum pos 8
    storeOctetsBy behind ((first :: rest).drop 8)
  termination_by octets.length

/-- Copies a payload behind the header of the record at `pos`. -/
def writePayloadBy (pos : UInt64) (data : List UInt8) : m Unit := do
  let first ← arithmetic.sum pos headerSize
  storeOctetsBy arithmetic first data

/-- Marks the record at `pos` as complete. -/
def commit (pos length : UInt64) : Access Unit :=
  storeWord pos (committedHeader length)

/-- Asks for a wakeup as far as `flags` want one: always, never, or only if the reader has caught
up with the record at `pos`. -/
def notify (pos flags : UInt64) : Access Unit := do
  if flags &&& forceWakeup != 0 then
    signal
  else if flags &&& noWakeup == 0 then
    let tail ← loadConsumer
    if tail == pos then
      signal

/-- Appends one record to a ring of the given size, or tells why not. -/
def outputBy (byteSize : UInt64) (data : List UInt8) (flags : UInt64) :
    m (Except Refusal Unit) := do
  if data.isEmpty then
    return .error .empty
  let length := UInt64.ofNat data.length
  let total ← recordLengthBy arithmetic length
  if total > byteSize || data.length > lengthMask.toNat then
    return .error .tooLarge
  match ← reserveWithinBy arithmetic byteSize total reserveAttempts with
  | .error refusal => return .error refusal
  | .ok pos =>
    writePayloadBy arithmetic pos data
    commit pos length
    notify pos flags
    return .ok ()

end

/-! ## As the ring runs -/

def reserveFrom (byteSize total : UInt64) (attempts : Nat) (head : UInt64) :
    Access (Except Refusal UInt64) :=
  reserveFromBy .wrapping byteSize total attempts head

def reserveWithin (byteSize total : UInt64) (attempts : Nat) : Access (Except Refusal UInt64) :=
  reserveWithinBy .wrapping byteSize total attempts

def storeOctets (pos : UInt64) (octets : List UInt8) : Access Unit :=
  storeOctetsBy .wrapping pos octets

def writePayload (pos : UInt64) (data : List UInt8) : Access Unit :=
  writePayloadBy .wrapping pos data

def output (byteSize : UInt64) (data : List UInt8) (flags : UInt64) :
    Access (Except Refusal Unit) :=
  outputBy .wrapping byteSize data flags

theorem reserveFrom_succ (byteSize total : UInt64) (attempts : Nat) (head : UInt64) :
    reserveFrom byteSize total (attempts + 1) head = (do
      let tail ← loadConsumer
      if distance head tail + total > byteSize then
        return .error .full
      match ← swapProducer head (head + total) with
      | none => return .ok head
      | some current => reserveFrom byteSize total attempts current) := rfl

theorem reserveWithin_eq (byteSize total : UInt64) (attempts : Nat) :
    reserveWithin byteSize total attempts =
      loadProducer >>= reserveFrom byteSize total attempts := rfl

theorem storeOctets_nil (pos : UInt64) : storeOctets pos [] = pure () := by
  rw [storeOctets, storeOctetsBy]

theorem storeOctets_cons (pos : UInt64) (first : UInt8) (rest : List UInt8) :
    storeOctets pos (first :: rest) = (do
      storeWord pos (UInt64.ofNat (toNatLE ((first :: rest).take 8)))
      storeOctets (pos + 8) ((first :: rest).drop 8)) := by
  rw [storeOctets, storeOctetsBy]
  rfl

theorem writePayload_eq (pos : UInt64) (data : List UInt8) :
    writePayload pos data = storeOctets (pos + headerSize) data := rfl

theorem output_eq_ite (byteSize : UInt64) (data : List UInt8) (flags : UInt64) :
    output byteSize data flags =
      if data.isEmpty then pure (.error .empty)
      else if recordLength (UInt64.ofNat data.length) > byteSize ||
          data.length > lengthMask.toNat then pure (.error .tooLarge)
      else do
        match ← reserveWithin byteSize (recordLength (UInt64.ofNat data.length))
            reserveAttempts with
        | .error refusal => return .error refusal
        | .ok pos =>
          writePayload pos data
          commit pos (UInt64.ofNat data.length)
          notify pos flags
          return .ok () := rfl

/-! ## Knocks -/

/-- Publishes a knock by handing its record to `output`. -/
def recordSink {m : Type → Type} (output : List UInt8 → UInt64 → m (Except Refusal Unit)) :
    Sink m where
  publish knock flags := output knock.encode flags

/-- A ring of the given size as a sink of knocks. -/
def sink (byteSize : UInt64) : Sink Access :=
  recordSink (output byteSize)

@[simp] theorem sink_publish (byteSize : UInt64) (knock : Knock) (flags : UInt64) :
    (sink byteSize).publish knock flags = output byteSize knock.encode flags := rfl

end PortKnock.Ring
