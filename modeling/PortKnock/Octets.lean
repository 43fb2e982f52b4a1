/-!
# Octets and the numbers they spell

Frames carry numbers most significant octet first, knock records and ring words
least significant octet first.  Both readings are one Horner recursion on a
list of octets, `toNatLE`, with `ofNatLE` as its inverse on a fixed number of
octets; the other order reverses the list.
-/

namespace PortKnock.Octets

/-- The number that octets spell, least significant octet first. -/
def toNatLE : List UInt8 → Nat
  | [] => 0
  | octet :: rest => octet.toNat + 256 * toNatLE rest

/-- The `count` least significant octets of a number, least significant first. -/
def ofNatLE : (count value : Nat) → List UInt8
  | 0, _ => []
  | count + 1, value => UInt8.ofNat value :: ofNatLE count (value / 256)

/-- The number that octets spell, most significant octet first. -/
def toNatBE (octets : List UInt8) : Nat :=
  toNatLE octets.reverse

/-- The `count` least significant octets of a number, most significant first. -/
def ofNatBE (count value : Nat) : List UInt8 :=
  (ofNatLE count value).reverse

@[simp] theorem length_ofNatLE (count value : Nat) : (ofNatLE count value).length = count := by
  induction count generalizing value with
  | zero => rfl
  | succ count ih => simp [ofNatLE, ih]

@[simp] theorem length_ofNatBE (count value : Nat) : (ofNatBE count value).length = count := by
  simp [ofNatBE]

end PortKnock.Octets
