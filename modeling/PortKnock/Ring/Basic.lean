import PortKnock.Octets

/-!
# The ring

A ring of 64 bit words that many writers fill and one reader empties.  Every
record starts with a header word, a commit bit and the length of its payload,
followed by the payload in words of eight octets, the last one filled up with
zeros.  Positions only grow: the word of a position is found by masking its
number of words, so records run over the end of the storage without noticing.

Between `consumerPos` and `producerPos` lie the records that are reserved and
not yet read; all words outside of them are zero.

This file holds the state and its measures.  What writers and the reader do to
it, one word or one counter at a time, is in `PortKnock.Ring.Access`.

Whatever the ring computes it computes by an `Arithmetic`, which is `wrapping`
when the ring runs.  The same code can so be run by an arithmetic that tells
whether a sum has run over.
-/

namespace PortKnock

/-- Whether a size is a power of two; zero is none. -/
def isPowerOfTwo (size : UInt64) : Bool :=
  size != 0 && size &&& (size - 1) == 0

/-- The state that writers and reader share. -/
structure Ring where
  words : Array UInt64
  /-- Octets that `words` holds. -/
  byteSize : UInt64
  /-- Where the next record is reserved. -/
  producerPos : UInt64 := 0
  /-- Where the next record is read. -/
  consumerPos : UInt64 := 0
  /-- Whether a wakeup has been asked for since readiness was last reset. -/
  ready : Bool := false
  deriving DecidableEq, Repr

namespace Ring

/-! ## Measures -/

/-- Octets of a header. -/
def headerSize : UInt64 := 8

/-- Set in the header of a record once its payload is complete. -/
def commitBit : UInt64 := 0x8000000000000000

/-- The bits of a header that hold the length of the payload. -/
def lengthMask : UInt64 := 0xffffffff

/-- How sums and products of sizes and positions are formed. -/
structure Arithmetic (m : Type → Type) where
  sum : UInt64 → UInt64 → m UInt64
  product : UInt64 → UInt64 → m UInt64

/-- Sums and products in 64 bits, whether they run over or not. -/
def Arithmetic.wrapping {m : Type → Type} [Monad m] : Arithmetic m where
  sum a b := return a + b
  product a b := return a * b

/-- Octets that a payload of the given length takes in the ring: a header, and the payload
rounded up to whole words. -/
def recordLengthBy {m : Type → Type} [Monad m] (arithmetic : Arithmetic m) (length : UInt64) :
    m UInt64 := do
  let words ← arithmetic.sum (length / 8) (if length % 8 = 0 then 0 else 1)
  let octets ← arithmetic.product words 8
  arithmetic.sum headerSize octets

def recordLength (length : UInt64) : UInt64 :=
  Id.run (recordLengthBy .wrapping length)

theorem recordLength_eq (length : UInt64) :
    recordLength length = headerSize + (length / 8 + if length % 8 = 0 then 0 else 1) * 8 := rfl

/-- The header of a complete record. -/
def committedHeader (length : UInt64) : UInt64 :=
  commitBit ||| length

def isCommitted (header : UInt64) : Bool :=
  header &&& commitBit != 0

/-- One less than the number of words. -/
def wordMask (ring : Ring) : UInt64 :=
  ring.byteSize / 8 - 1

/-- The index of the word at a position. -/
def slot (ring : Ring) (pos : UInt64) : Nat :=
  ((pos / 8) &&& ring.wordMask).toNat

/-- The word at a position. -/
def word (ring : Ring) (pos : UInt64) : UInt64 :=
  ring.words.getD (ring.slot pos) 0

/-! ## Making a ring -/

/-- The only reason for which a ring is not made. -/
structure SizeError where
  byteSize : UInt64
  deriving DecidableEq, Repr

def SizeError.message (error : SizeError) : String :=
  s!"ring byte size must be a power of two >= 16, got {error.byteSize.toNat}"

/-- An empty ring of the given size, which has to be a power of two and at least 16. -/
def make (byteSize : UInt64) : Except SizeError Ring :=
  if !isPowerOfTwo byteSize || byteSize < 16 then
    .error ⟨byteSize⟩
  else
    .ok { words := Array.replicate (byteSize / 8).toNat 0, byteSize }

end Ring

end PortKnock
