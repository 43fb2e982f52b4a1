import Mathlib.Algebra.GroupWithZero.Nat
import PortKnock.Ring.Producer

/-!
# Measures of the ring as numbers

The ring measures itself in 64 bit arithmetic and finds the word of a position
by masking.  This file says what these measures are as numbers: a payload of
`n` octets takes `footprint n` octets, that is `wordsFor n` whole words, and the
word of a position is its number of words modulo the size of the storage.

`Ring.cell` is the storage unrolled: the word with a given number, counted from
position zero and without an end.  Two cells less than one round apart are
different words (`cell_store_of_ne`), which is all that the theory of the
ring needs to know of the mask.
-/

namespace PortKnock

/-- The test for powers of two finds them all and nothing else. -/
theorem isPowerOfTwo_iff (size : UInt64) :
    isPowerOfTwo size = true ↔ ∃ k, size.toNat = 2 ^ k := by
  rw [← Nat.isPowerOfTwo, ← Nat.ne_zero_and_sub_one_eq_zero_iff_isPowerOfTwo]
  unfold isPowerOfTwo
  rw [Bool.and_eq_true, bne_iff_ne, beq_iff_eq, Ne, ← UInt64.toNat_inj, ← UInt64.toNat_inj,
    UInt64.toNat_and, UInt64.toNat_zero]
  refine and_congr_right fun hne => ?_
  have hle : (1 : UInt64) ≤ size := by
    rw [UInt64.le_iff_toNat_le, UInt64.toNat_one]
    omega
  rw [UInt64.toNat_sub_of_le _ _ hle, UInt64.toNat_one]

namespace Ring

/-! ## Sizes of records -/

/-- Words that a payload of the given length takes: its header, and its octets eight to a word. -/
def wordsFor (length : Nat) : Nat :=
  1 + (length + 7) / 8

/-- Octets that a payload of the given length takes. -/
def footprint (length : Nat) : Nat :=
  8 * wordsFor length

theorem toNat_recordLength {length : UInt64} (hlength : length.toNat < 2 ^ 63) :
    (recordLength length).toNat = footprint length.toNat := by
  have hdiv : (length / 8).toNat = length.toNat / 8 := by simp
  have hmod : (length % 8 = 0) ↔ length.toNat % 8 = 0 := by
    rw [← UInt64.toNat_inj, UInt64.toNat_mod]
    simp
  rw [recordLength_eq]
  unfold footprint wordsFor headerSize
  simp only [UInt64.toNat_add, UInt64.toNat_mul, hdiv]
  by_cases hzero : length.toNat % 8 = 0
  · rw [if_pos (hmod.mpr hzero)]
    simp only [UInt64.toNat_ofNat]
    omega
  · rw [if_neg (mt hmod.mp hzero)]
    simp only [UInt64.toNat_ofNat]
    omega

/-- A length that a header can hold. -/
theorem toNat_ofNat_length {length : Nat} (hlength : length ≤ lengthMask.toNat) :
    (UInt64.ofNat length).toNat = length := by
  have hmask : lengthMask.toNat = 2 ^ 32 - 1 := rfl
  rw [UInt64.toNat_ofNat', Nat.mod_eq_of_lt (by omega)]

theorem toNat_recordLength_ofNat {length : Nat} (hlength : length ≤ lengthMask.toNat) :
    (recordLength (UInt64.ofNat length)).toNat = footprint length := by
  have hmask : lengthMask.toNat = 2 ^ 32 - 1 := rfl
  have heq := toNat_ofNat_length hlength
  rw [toNat_recordLength (by omega), heq]

/-- The distance of two positions is their difference, cut off at zero. -/
theorem toNat_distance (head tail : UInt64) :
    (distance head tail).toNat = head.toNat - tail.toNat := by
  unfold distance
  split
  · rename_i hle
    exact UInt64.toNat_sub_of_le _ _ hle
  · rename_i hlt
    rw [UInt64.le_iff_toNat_le] at hlt
    rw [UInt64.toNat_zero]
    omega

/-! ## Headers -/

private theorem or_and_distrib (a b c : UInt64) : (a ||| b) &&& c = (a &&& c) ||| (b &&& c) :=
  UInt64.toBitVec_inj.mp BitVec.and_or_distrib_right

theorem isCommitted_zero : isCommitted 0 = false := rfl

theorem isCommitted_committedHeader (length : UInt64) :
    isCommitted (committedHeader length) = true := by
  unfold isCommitted committedHeader
  rw [bne_iff_ne, or_and_distrib, UInt64.and_self]
  intro hzero
  exact absurd (UInt64.or_eq_zero_iff.mp hzero).1 (by decide)

/-- A header gives back the length that it was made of. -/
theorem committedHeader_and_lengthMask {length : UInt64}
    (hlength : length.toNat ≤ lengthMask.toNat) :
    committedHeader length &&& lengthMask = length := by
  have hmask : lengthMask.toNat = 2 ^ 32 - 1 := rfl
  have hbit : commitBit &&& lengthMask = 0 := by decide
  have hself : length &&& lengthMask = length := by
    rw [← UInt64.toNat_inj, UInt64.toNat_and, hmask, Nat.and_two_pow_sub_one_eq_mod]
    exact Nat.mod_eq_of_lt (by omega)
  unfold committedHeader
  rw [or_and_distrib, hbit, hself, UInt64.zero_or]

/-! ## The storage unrolled -/

/-- The storage is what `make` builds: a power of two of words, two at least. -/
structure WellFormed (ring : Ring) : Prop where
  size_eq_pow : ∃ k, ring.words.size = 2 ^ k
  two_le_size : 2 ≤ ring.words.size
  byteSize_eq : ring.byteSize.toNat = 8 * ring.words.size

/-- No storage is so large that its size comes near the end of the positions. -/
theorem WellFormed.byteSize_le {ring : Ring} (hring : ring.WellFormed) :
    ring.byteSize.toNat ≤ 2 ^ 63 := by
  obtain ⟨k, hk⟩ := hring.size_eq_pow
  have hlt := ring.byteSize.toNat_lt
  have hsize : ring.byteSize.toNat = 2 ^ (k + 3) := by
    rw [hring.byteSize_eq, hk, Nat.pow_add, Nat.mul_comm]
  rw [hsize] at hlt ⊢
  -- a power of two below 2 ^ 64 is 2 ^ 63 at most
  have hexponent : k + 3 < 64 := (Nat.pow_lt_pow_iff_right (show 1 < 2 by decide)).mp hlt
  exact Nat.pow_le_pow_right (by decide) (Nat.le_of_lt_succ hexponent)

/-- The word with the given number, counted from position zero round after round. -/
def cell (ring : Ring) (index : Nat) : UInt64 :=
  ring.words.getD (index % ring.words.size) 0

/-- The ring with the word at a position replaced. -/
def store (ring : Ring) (pos value : UInt64) : Ring :=
  { ring with words := ring.words.setIfInBounds (ring.slot pos) value }

@[simp] theorem run_storeWord (ring : Ring) (pos value : UInt64) :
    (Access.storeWord pos value).run ring = ((), ring.store pos value) := rfl

@[simp] theorem byteSize_store (ring : Ring) (pos value : UInt64) :
    (ring.store pos value).byteSize = ring.byteSize := rfl

@[simp] theorem producerPos_store (ring : Ring) (pos value : UInt64) :
    (ring.store pos value).producerPos = ring.producerPos := rfl

@[simp] theorem consumerPos_store (ring : Ring) (pos value : UInt64) :
    (ring.store pos value).consumerPos = ring.consumerPos := rfl

@[simp] theorem ready_store (ring : Ring) (pos value : UInt64) :
    (ring.store pos value).ready = ring.ready := rfl

@[simp] theorem size_words_store (ring : Ring) (pos value : UInt64) :
    (ring.store pos value).words.size = ring.words.size := by
  simp [store]

/-- No request changes the size of the ring. -/
theorem byteSize_perform (ring : Ring) (request : Request) :
    (ring.perform request).2.byteSize = ring.byteSize := by
  cases request with
  | swapProducer expected desired =>
    simp only [perform]
    split <;> rfl
  | _ => rfl

theorem WellFormed.store {ring : Ring} (hring : ring.WellFormed) (pos value : UInt64) :
    (ring.store pos value).WellFormed := by
  refine ⟨?_, ?_, ?_⟩
  · simpa using hring.size_eq_pow
  · simpa using hring.two_le_size
  · simpa using hring.byteSize_eq

/-- Masking a number of words is taking it modulo the size of the storage. -/
theorem slot_eq_mod {ring : Ring} (hring : ring.WellFormed) (pos : UInt64) :
    ring.slot pos = pos.toNat / 8 % ring.words.size := by
  obtain ⟨k, hk⟩ := hring.size_eq_pow
  have htwo := hring.two_le_size
  have hwords : (ring.byteSize / 8).toNat = ring.words.size := by
    rw [UInt64.toNat_div, hring.byteSize_eq]
    simp
  have hone : (1 : UInt64) ≤ ring.byteSize / 8 := by
    rw [UInt64.le_iff_toNat_le, hwords, UInt64.toNat_one]
    omega
  have hmask : ring.wordMask.toNat = 2 ^ k - 1 := by
    rw [wordMask, UInt64.toNat_sub_of_le _ _ hone, hwords, hk, UInt64.toNat_one]
  rw [slot, UInt64.toNat_and, hmask, Nat.and_two_pow_sub_one_eq_mod, hk, UInt64.toNat_div]
  rfl

theorem word_eq_cell {ring : Ring} (hring : ring.WellFormed) (pos : UInt64) :
    ring.word pos = ring.cell (pos.toNat / 8) := by
  rw [word, slot_eq_mod hring, cell]

theorem cell_add_size (ring : Ring) (index : Nat) :
    ring.cell (index + ring.words.size) = ring.cell index := by
  rw [cell, Nat.add_mod_right, cell]

theorem cell_store_self {ring : Ring} (hring : ring.WellFormed) {pos value : UInt64} {index : Nat}
    (hindex : pos.toNat / 8 = index) : (ring.store pos value).cell index = value := by
  have hlt : index % ring.words.size < ring.words.size :=
    Nat.mod_lt _ (by have := hring.two_le_size; omega)
  simp [cell, store, slot_eq_mod hring, hindex, hlt]

/-- Less than a round apart, two numbers name different words. -/
theorem mod_ne_mod_of_lt {a b n : Nat} (hne : a ≠ b) (hab : a < b + n) (hba : b < a + n) :
    a % n ≠ b % n := by
  intro hmod
  -- equal remainders leave the quotients to differ, by a whole round at least
  have ha := Nat.div_add_mod a n
  have hb := Nat.div_add_mod b n
  rcases Nat.lt_trichotomy (a / n) (b / n) with hlt | heq | hlt
  · have := Nat.mul_le_mul_left n (Nat.succ_le_of_lt hlt)
    rw [Nat.mul_succ] at this
    omega
  · rw [heq] at ha
    omega
  · have := Nat.mul_le_mul_left n (Nat.succ_le_of_lt hlt)
    rw [Nat.mul_succ] at this
    omega

theorem cell_store_of_ne {ring : Ring} (hring : ring.WellFormed) {pos value : UInt64}
    {index : Nat} (hne : index ≠ pos.toNat / 8) (hlow : pos.toNat / 8 < index + ring.words.size)
    (hhigh : index < pos.toNat / 8 + ring.words.size) :
    (ring.store pos value).cell index = ring.cell index := by
  have hslot : pos.toNat / 8 % ring.words.size ≠ index % ring.words.size :=
    mod_ne_mod_of_lt hne.symm hlow hhigh
  simp [cell, store, slot_eq_mod hring, hslot]

/-! ## New rings -/

/-- What `make` builds, and of which sizes. -/
theorem make_eq_ok {size : UInt64} {ring : Ring} (hmake : make size = .ok ring) :
    isPowerOfTwo size = true ∧ 16 ≤ size.toNat ∧
      ring = { words := Array.replicate (size / 8).toNat 0, byteSize := size } := by
  unfold make at hmake
  split at hmake
  · cases hmake
  · rename_i hcondition
    simp only [Bool.or_eq_true, Bool.not_eq_true', decide_eq_true_eq, not_or,
      Bool.not_eq_false] at hcondition
    cases hmake
    refine ⟨hcondition.1, ?_, rfl⟩
    have := hcondition.2
    rw [UInt64.not_lt, UInt64.le_iff_toNat_le] at this
    exact this

theorem wellFormed_of_make {size : UInt64} {ring : Ring} (hmake : make size = .ok ring) :
    ring.WellFormed := by
  obtain ⟨hpow, hsize, rfl⟩ := make_eq_ok hmake
  obtain ⟨k, hk⟩ := (isPowerOfTwo_iff size).mp hpow
  have hwords : (size / 8).toNat = size.toNat / 8 := by simp
  have hk3 : 3 ≤ k := by
    rcases Nat.lt_or_ge k 3 with hlt | hge
    · have := Nat.pow_le_pow_right (show 0 < 2 by decide) (show k ≤ 2 by omega)
      omega
    · exact hge
  have hsplit : 2 ^ k = 8 * 2 ^ (k - 3) := by
    rw [show (8 : Nat) = 2 ^ 3 from rfl, ← Nat.pow_add]
    congr 1
    omega
  refine ⟨⟨k - 3, ?_⟩, ?_, ?_⟩ <;> simp only [Array.size_replicate, hwords] <;> omega

theorem cell_of_make {size : UInt64} {ring : Ring} (hmake : make size = .ok ring) (index : Nat) :
    ring.cell index = 0 := by
  obtain ⟨_, _, rfl⟩ := make_eq_ok hmake
  simp only [cell, Array.getD_eq_getD_getElem?, Array.getElem?_replicate]
  split <;> rfl

end Ring

end PortKnock
