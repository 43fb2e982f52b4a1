import Mathlib.Algebra.Group.Nat.Defs
import PortKnock.Octets

/-!
# Writing numbers as octets and reading them back

In either order, writing and reading are inverse to each other on numbers that
fit (`toNatLE_ofNatLE`, `ofNatLE_toNatLE`, `toNatBE_ofNatBE`,
`ofNatBE_toNatBE`).
-/

namespace PortKnock.Octets

/-! ## Least significant octet first -/

theorem toNatLE_lt (octets : List UInt8) : toNatLE octets < 256 ^ octets.length := by
  induction octets with
  | nil => simp [toNatLE]
  | cons octet rest ih =>
    have := octet.toNat_lt
    simp only [toNatLE, List.length_cons, Nat.pow_succ]
    omega

/-- Octets written and read back give the number, less what did not fit. -/
theorem toNatLE_ofNatLE (count value : Nat) :
    toNatLE (ofNatLE count value) = value % 256 ^ count := by
  induction count generalizing value with
  | zero => simp [ofNatLE, toNatLE, Nat.mod_one]
  | succ count ih =>
    have hstep : 256 ^ (count + 1) = 256 * 256 ^ count := by rw [Nat.pow_succ, Nat.mul_comm]
    simp only [ofNatLE, toNatLE, ih, UInt8.toNat_ofNat']
    rw [hstep, Nat.mod_mul]

/-- Octets read and written back are the same octets. -/
theorem ofNatLE_toNatLE (octets : List UInt8) :
    ofNatLE octets.length (toNatLE octets) = octets := by
  induction octets with
  | nil => rfl
  | cons octet rest ih =>
    have hlow : UInt8.ofNat (octet.toNat + 256 * toNatLE rest) = octet := by
      apply UInt8.toNat_inj.mp
      have := octet.toNat_lt
      simp only [UInt8.toNat_ofNat']
      omega
    have hhigh : (octet.toNat + 256 * toNatLE rest) / 256 = toNatLE rest := by
      have := octet.toNat_lt
      omega
    simp [toNatLE, ofNatLE, hlow, hhigh, ih]

/-! ## Most significant octet first -/

/-- Octets written and read back give the number, less what did not fit. -/
theorem toNatBE_ofNatBE (count value : Nat) :
    toNatBE (ofNatBE count value) = value % 256 ^ count := by
  rw [toNatBE, ofNatBE, List.reverse_reverse, toNatLE_ofNatLE]

theorem toNatBE_lt (octets : List UInt8) : toNatBE octets < 256 ^ octets.length := by
  rw [toNatBE, ← List.length_reverse]
  exact toNatLE_lt octets.reverse

/-- Octets read and written back are the same octets. -/
theorem ofNatBE_toNatBE (octets : List UInt8) :
    ofNatBE octets.length (toNatBE octets) = octets := by
  have hreverse := ofNatLE_toNatLE octets.reverse
  rw [List.length_reverse] at hreverse
  rw [ofNatBE, toNatBE, hreverse, List.reverse_reverse]

end PortKnock.Octets
