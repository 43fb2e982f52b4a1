import PortKnock.Ring.Access

/-!
# Reading records

The reader hands out records in the order of their reservation and stops at
the first one that is reserved but not yet complete.  It leaves zeros behind,
since a later record may put its header where a payload was.
-/

namespace PortKnock.Ring

open Octets Access

section

variable {m : Type → Type} [Monad m] [MonadLiftT Access m] (arithmetic : Arithmetic m)

/-- Reads and clears the words from `pos` up to `stop`, `fuel` at most, and puts them behind
those already `taken` (latest first). -/
def takeWordsBy (stop : UInt64) : (fuel : Nat) → (pos : UInt64) → (taken : List UInt64) →
    m (List UInt64)
  | 0, _, taken => pure taken.reverse
  | fuel + 1, pos, taken => do
    if pos < stop then
      let word ← loadWord pos
      storeWord pos 0
      let behind ← arithmetic.sum pos 8
      takeWordsBy stop fuel behind (word :: taken)
    else
      return taken.reverse

/-- Takes the complete record at `tail` out of the ring. -/
def takeRecordBy (tail header : UInt64) : m (List UInt8) := do
  let length := header &&& lengthMask
  let total ← recordLengthBy arithmetic length
  let stop ← arithmetic.sum tail total
  let first ← arithmetic.sum tail headerSize
  let words ← takeWordsBy arithmetic stop (total / 8).toNat first []
  storeWord tail 0
  storeConsumer stop
  return (words.flatMap fun word => ofNatLE 8 word.toNat).take length.toNat

/-- The oldest record, if it is complete.  Finding none resets readiness and looks once more, so
that a record completed in between is not slept over. -/
def nextBy : m (Option (List UInt8)) := do
  let tail ← loadConsumer
  let header ← loadWord tail
  if isCommitted header then
    some <$> takeRecordBy arithmetic tail header
  else
    reset
    let header ← loadWord tail
    if isCommitted header then
      some <$> takeRecordBy arithmetic tail header
    else
      return none

end

/-! ## As the ring runs -/

def takeWords (stop : UInt64) (fuel : Nat) (pos : UInt64) (taken : List UInt64) :
    Access (List UInt64) :=
  takeWordsBy .wrapping stop fuel pos taken

def takeRecord (tail header : UInt64) : Access (List UInt8) :=
  takeRecordBy .wrapping tail header

def next : Access (Option (List UInt8)) :=
  nextBy .wrapping

theorem takeWords_zero (stop pos : UInt64) (taken : List UInt64) :
    takeWords stop 0 pos taken = pure taken.reverse := rfl

theorem takeWords_succ (stop : UInt64) (fuel : Nat) (pos : UInt64) (taken : List UInt64) :
    takeWords stop (fuel + 1) pos taken =
      if pos < stop then do
        let word ← loadWord pos
        storeWord pos 0
        takeWords stop fuel (pos + 8) (word :: taken)
      else pure taken.reverse := rfl

theorem takeRecord_eq (tail header : UInt64) :
    takeRecord tail header = do
      let length := header &&& lengthMask
      let total := recordLength length
      let words ← takeWords (tail + total) (total / 8).toNat (tail + headerSize) []
      storeWord tail 0
      storeConsumer (tail + total)
      return (words.flatMap fun word => ofNatLE 8 word.toNat).take length.toNat := rfl

theorem next_eq :
    next = do
      let tail ← loadConsumer
      let header ← loadWord tail
      if isCommitted header then
        some <$> takeRecord tail header
      else
        reset
        let header ← loadWord tail
        if isCommitted header then
          some <$> takeRecord tail header
        else
          return none := rfl

/-- Records in reading order until there is none, `fuel` at most. -/
def drainWithin : (fuel : Nat) → Ring → List (List UInt8) × Ring
  | 0, ring => ([], ring)
  | fuel + 1, ring =>
    match next.run ring with
    | (none, ring) => ([], ring)
    | (some record, ring) =>
      let (records, ring) := drainWithin fuel ring
      (record :: records, ring)

/-- All records that are complete.  Every record has a header word of its own, so there are no
more of them than words. -/
def drain (ring : Ring) : List (List UInt8) × Ring :=
  drainWithin (ring.words.size + 1) ring

end PortKnock.Ring
