import PortKnock.Proofs.Octets
import PortKnock.Proofs.Ring.Measures
import PortKnock.Ring.Consumer
import PortKnock.Ring.Producer

/-!
# Payloads as words

A writer copies its payload word by word, the last word filled up with zeros,
and the reader puts the octets together again and drops what fills.  Both sides
meet in `payloadWords`, the words of a payload: copying a payload is storing
these words one after the other (`storeOctets_eq`), and their octets, cut at
the length of the payload, are the payload (`take_octets_payloadWords`).
-/

namespace PortKnock

namespace Octets

/-- Octets read and written with more places than there are octets get zeros behind them. -/
theorem ofNatLE_toNatLE_of_le {count : Nat} {octets : List UInt8} (hle : octets.length ≤ count) :
    ofNatLE count (toNatLE octets) = octets ++ List.replicate (count - octets.length) 0 := by
  have hzero : ∀ count, ofNatLE count 0 = List.replicate count 0 := by
    intro count
    induction count with
    | zero => rfl
    | succ count ih => simp [ofNatLE, ih, List.replicate_succ]
  induction octets generalizing count with
  | nil => simpa [toNatLE] using hzero count
  | cons octet rest ih =>
    cases count with
    | zero => simp at hle
    | succ count =>
      have hlow : UInt8.ofNat (octet.toNat + 256 * toNatLE rest) = octet := by
        apply UInt8.toNat_inj.mp
        have := octet.toNat_lt
        simp only [UInt8.toNat_ofNat']
        omega
      have hhigh : (octet.toNat + 256 * toNatLE rest) / 256 = toNatLE rest := by
        have := octet.toNat_lt
        omega
      have hrest : rest.length ≤ count := by simpa using hle
      simp [toNatLE, ofNatLE, hlow, hhigh, ih hrest]

end Octets

namespace Ring

open Octets Access

/-- The words of a payload, eight octets each, the last one filled up with zeros. -/
def payloadWords (data : List UInt8) : List UInt64 :=
  match data with
  | [] => []
  | first :: rest =>
    UInt64.ofNat (toNatLE ((first :: rest).take 8)) :: payloadWords ((first :: rest).drop 8)
  termination_by data.length

/-- Stores words one after the other from a position on. -/
def storeWords (pos : UInt64) : List UInt64 → Access Unit
  | [] => pure ()
  | word :: rest => do
    storeWord pos word
    storeWords (pos + 8) rest

theorem storeOctets_eq (pos : UInt64) (data : List UInt8) :
    storeOctets pos data = storeWords pos (payloadWords data) := by
  fun_induction payloadWords data generalizing pos with
  | case1 => rw [storeOctets_nil, storeWords]
  | case2 first rest ih => rw [storeOctets_cons, storeWords, ih]

theorem length_payloadWords (data : List UInt8) :
    (payloadWords data).length = (data.length + 7) / 8 := by
  fun_induction payloadWords data with
  | case1 => rfl
  | case2 first rest ih =>
    simp only [List.length_cons, ih, List.length_drop]
    omega

theorem length_payloadWords_add_one (data : List UInt8) :
    (payloadWords data).length + 1 = wordsFor data.length := by
  rw [length_payloadWords, wordsFor, Nat.add_comm]

/-- As long as words of a payload are left, its record goes on behind the ones before them. -/
theorem lt_wordsFor_of_split {data : List UInt8} {done rest : List UInt64} {word : UInt64}
    (hsplit : payloadWords data = done ++ word :: rest) :
    done.length + 1 < wordsFor data.length := by
  rw [← length_payloadWords_add_one, hsplit, List.length_append, List.length_cons]
  omega

/-- The octets of words, least significant first. -/
def octetsOf (words : List UInt64) : List UInt8 :=
  words.flatMap fun word => ofNatLE 8 word.toNat

/-- A payload comes back from its words. -/
theorem take_octets_payloadWords (data : List UInt8) :
    (octetsOf (payloadWords data)).take data.length = data := by
  fun_induction payloadWords data with
  | case1 => rfl
  | case2 first rest ih =>
    generalize hdata : first :: rest = data at ih ⊢
    have hchunk : (data.take 8).length ≤ 8 := List.length_take_le 8 data
    have hword : (UInt64.ofNat (toNatLE (data.take 8))).toNat = toNatLE (data.take 8) := by
      have hlt := toNatLE_lt (data.take 8)
      have hpow := Nat.pow_le_pow_right (show 0 < 256 by decide) hchunk
      rw [UInt64.toNat_ofNat']
      exact Nat.mod_eq_of_lt (Nat.lt_of_lt_of_le hlt hpow)
    rw [octetsOf, List.flatMap_cons, hword, ofNatLE_toNatLE_of_le hchunk]
    -- only the last word may have octets that are not of the payload
    rcases Nat.lt_or_ge data.length 8 with hshort | hlong
    · have hall : data.take 8 = data := List.take_of_length_le (by omega)
      rw [hall, List.append_assoc, List.take_left]
    · have hlength : (data.take 8).length = 8 := by simp [hlong]
      have hsplit : data.length = (data.take 8).length + (data.drop 8).length := by
        rw [hlength, List.length_drop]
        omega
      rw [hlength, Nat.sub_self, List.replicate_zero, List.append_nil, hsplit,
        List.take_length_add_append]
      exact (congrArg _ ih).trans (List.take_append_drop 8 data)

end Ring

end PortKnock
