import PortKnock.Proofs.Ring.Payload

/-!
# Which payloads are reserved for

`output` turns an empty payload away, and one that is too long for the ring or
for the length in a header.  What is left of it for any other payload is a
reservation and what follows from its result (`output_eq`).
-/

namespace PortKnock.Ring

open Access

variable {byteSize : UInt64} {data : List UInt8}

/-- A payload that a ring of the given size has room for when it is empty. -/
structure Admissible (byteSize : UInt64) (data : List UInt8) : Prop where
  ne_nil : data ≠ []
  footprint_le : footprint data.length ≤ byteSize.toNat
  length_le : data.length ≤ lengthMask.toNat

/-- The octets that the record of a payload takes, as `output` computes them. -/
def total (data : List UInt8) : UInt64 :=
  recordLength (UInt64.ofNat data.length)

theorem Admissible.toNat_total (hdata : Admissible byteSize data) :
    (total data).toNat = footprint data.length :=
  toNat_recordLength_ofNat hdata.length_le

theorem Admissible.toNat_total_lt (hdata : Admissible byteSize data) :
    (total data).toNat < 2 ^ 34 := by
  have hmask : lengthMask.toNat = 2 ^ 32 - 1 := rfl
  have hlength := hdata.length_le
  rw [hdata.toNat_total, footprint, wordsFor]
  omega

/-- What `output` does once it knows whether there is room. -/
def afterReserving (data : List UInt8) (flags : UInt64) :
    Except Refusal UInt64 → Access (Except Refusal Unit)
  | .error refusal => pure (.error refusal)
  | .ok pos => do
    writePayload pos data
    commit pos (UInt64.ofNat data.length)
    notify pos flags
    return .ok ()

theorem output_nil (byteSize flags : UInt64) :
    output byteSize [] flags = pure (.error .empty) := rfl

theorem output_of_tooLarge (hdata : data ≠ []) (flags : UInt64)
    (hlarge : byteSize.toNat < footprint data.length ∨ lengthMask.toNat < data.length) :
    output byteSize data flags = pure (.error .tooLarge) := by
  have hcondition : recordLength (UInt64.ofNat data.length) > byteSize ∨
      data.length > lengthMask.toNat := by
    by_cases hlong : lengthMask.toNat < data.length
    · exact Or.inr hlong
    · rw [gt_iff_lt, UInt64.lt_iff_toNat_lt, toNat_recordLength_ofNat (by omega)]
      exact hlarge
  simp [output_eq_ite, hdata, hcondition]

theorem output_eq (hdata : Admissible byteSize data) (flags : UInt64) :
    output byteSize data flags =
      reserveWithin byteSize (total data) reserveAttempts >>= afterReserving data flags := by
  have hshort : ¬ recordLength (UInt64.ofNat data.length) > byteSize := by
    have hle := hdata.footprint_le
    rw [gt_iff_lt, UInt64.lt_iff_toNat_lt, toNat_recordLength_ofNat hdata.length_le]
    omega
  have hlong : ¬ data.length > lengthMask.toNat := by
    have := hdata.length_le
    omega
  simp only [output_eq_ite, List.isEmpty_iff, hdata.ne_nil, hshort, hlong, total]
  rfl

end PortKnock.Ring
