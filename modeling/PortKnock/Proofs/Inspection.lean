import PortKnock.Inspection

/-!
# Which frames are knocks

The headers are read one after the other, each from the octets that the frame
has at its place.  Here the test is put together again: a frame is a knock by
its length and by octets at fixed places (`isKnock`), and what is published of
it stands at fixed places as well (`classify_eq`).
-/

namespace PortKnock

open Octets

/-! ## Octets of parts of a list -/

section Parts

variable {octets : List UInt8} {offset length : Nat}

theorem octetsAt_succ (hoffset : offset < octets.length) (length : Nat) :
    octetsAt octets offset (length + 1) =
      octetAt octets offset :: octetsAt octets (offset + 1) length := by
  rw [octetsAt, List.drop_eq_getElem_cons hoffset, List.take_succ_cons, octetAt,
    List.getD_eq_getElem?_getD, List.getElem?_eq_getElem hoffset, Option.getD_some, octetsAt]

/-- Octets of a part are octets of the whole. -/
theorem octetsAt_octetsAt (octets : List UInt8) (start : Nat) {part : Nat}
    (hpart : offset + length ≤ part) :
    octetsAt (octetsAt octets start part) offset length =
      octetsAt octets (start + offset) length := by
  rw [octetsAt, octetsAt, List.drop_take, List.take_take, List.drop_drop, octetsAt,
    Nat.min_eq_left (by omega)]

theorem octetAt_octetsAt (octets : List UInt8) (start : Nat) {part : Nat} (hpart : offset < part) :
    octetAt (octetsAt octets start part) offset = octetAt octets (start + offset) := by
  rw [octetAt, octetAt, octetsAt, List.getD_eq_getElem?_getD, List.getD_eq_getElem?_getD,
    List.getElem?_take_of_lt hpart, List.getElem?_drop]

theorem wordAt_octetsAt (octets : List UInt8) (start : Nat) {part : Nat}
    (hpart : offset + 2 ≤ part) :
    wordAt (octetsAt octets start part) offset = wordAt octets (start + offset) := by
  rw [wordAt, octetsAt_octetsAt octets start hpart, wordAt]

theorem longAt_octetsAt (octets : List UInt8) (start : Nat) {part : Nat}
    (hpart : offset + 4 ≤ part) :
    longAt (octetsAt octets start part) offset = longAt octets (start + offset) := by
  rw [longAt, octetsAt_octetsAt octets start hpart, longAt]

/-- The octets of a 16 bit number. -/
theorem octetsAt_two (hoffset : offset + 2 ≤ octets.length) :
    octetsAt octets offset 2 = [octetAt octets offset, octetAt octets (offset + 1)] := by
  rw [octetsAt_succ (by omega), octetsAt_succ (by omega), octetsAt, List.take_zero]

/-- The octets of a 32 bit number. -/
theorem octetsAt_four (hoffset : offset + 4 ≤ octets.length) :
    octetsAt octets offset 4 =
      [octetAt octets offset, octetAt octets (offset + 1), octetAt octets (offset + 2),
        octetAt octets (offset + 3)] := by
  rw [octetsAt_succ (by omega), octetsAt_succ (by omega), octetsAt_two (by omega)]

theorem toNat_wordAt (hoffset : offset + 2 ≤ octets.length) :
    (wordAt octets offset).toNat =
      256 * (octetAt octets offset).toNat + (octetAt octets (offset + 1)).toNat := by
  have hhigh := (octetAt octets offset).toNat_lt
  have hlow := (octetAt octets (offset + 1)).toNat_lt
  rw [wordAt, octetsAt_two hoffset]
  simp only [toNatBE, List.reverse_cons, List.reverse_nil, List.nil_append, List.cons_append,
    toNatLE, UInt16.toNat_ofNat']
  omega

end Parts

/-! ## The test -/

/-- Whether a frame has the length of three bare headers, up to the padding of a short frame, and
the octets that a knock has. -/
def isKnock (filter : Filter) (frame : List UInt8) : Bool :=
  decide (42 ≤ frame.length) && decide (frame.length ≤ 60) && octetAt frame 23 == 17
    && (!filter.strictEtherType || octetAt frame 12 == 8 && octetAt frame 13 == 0)

/-- What is published of a frame. -/
def knockOf (frame : List UInt8) : Knock where
  source := longAt frame 26
  port := wordAt frame 36

variable {filter : Filter} {frame : List UInt8}

theorem length_le_of_isKnock (hknock : isKnock filter frame = true) : 42 ≤ frame.length := by
  simp only [isKnock, Bool.and_eq_true, decide_eq_true_eq] at hknock
  exact hknock.1.1.1

theorem wordAt_eq_etherTypeIpv4_iff (hlength : 14 ≤ frame.length) :
    wordAt frame 12 = etherTypeIpv4 ↔ octetAt frame 12 = 8 ∧ octetAt frame 13 = 0 := by
  have hlow := (octetAt frame 13).toNat_lt
  rw [← UInt16.toNat_inj, toNat_wordAt hlength, ← UInt8.toNat_inj, ← UInt8.toNat_inj]
  show 256 * (octetAt frame 12).toNat + (octetAt frame 13).toNat = 2048 ↔
    (octetAt frame 12).toNat = 8 ∧ (octetAt frame 13).toNat = 0
  omega

theorem headerAt?_eq_some {offset length : Nat} (hlength : offset + length ≤ frame.length) :
    Frame.headerAt? frame offset length = some (octetsAt frame offset length) :=
  if_pos hlength

theorem headerAt?_eq_none {offset length : Nat} (hlength : frame.length < offset + length) :
    Frame.headerAt? frame offset length = none :=
  if_neg (by omega)

/-- A frame that is too long is not read at all. -/
theorem headers?_of_long (filter : Filter) (hlong : 60 < frame.length) :
    Frame.headers? filter frame = none := by
  unfold Frame.headers?
  rw [if_pos (show frame.length > Frame.maxLength from hlong)]

/-- Whatever the first two headers of a short frame say, there is no third one. -/
theorem headers?_of_short (filter : Filter) (hshort : frame.length < 42) :
    Frame.headers? filter frame = none := by
  have hmax : ¬ frame.length > Frame.maxLength :=
    Nat.not_lt_of_le (Nat.le_trans (Nat.le_of_lt hshort) (by decide))
  have hudp : Frame.headerAt? frame (EthernetHeader.length + Ipv4Header.length) UdpHeader.size =
      none := headerAt?_eq_none hshort
  unfold Frame.headers?
  rw [if_neg hmax, hudp]
  cases Frame.headerAt? frame 0 EthernetHeader.length with
  | none => rfl
  | some ethernet =>
    simp only [Option.map_some, Option.bind_eq_bind, Option.bind_some]
    split
    · rfl
    · cases Frame.headerAt? frame EthernetHeader.length Ipv4Header.length with
      | none => rfl
      | some ipv4 =>
        simp only [Option.map_some, Option.bind_some]
        split <;> rfl

/-- In a frame that has room for all headers, the two tests on their fields decide. -/
theorem headers?_of_fits (filter : Filter) (hmin : 42 ≤ frame.length) (hmax : frame.length ≤ 60) :
    Frame.headers? filter frame =
      if filter.strictEtherType && wordAt frame 12 != etherTypeIpv4 then none
      else if octetAt frame 23 = protocolUdp then
        some {
          ethernet := .ofOctets (octetsAt frame 0 14)
          ipv4 := .ofOctets (octetsAt frame 14 20)
          udp := .ofOctets (octetsAt frame 34 8)
          frameLength := frame.length }
      else none := by
  have hethernet : Frame.headerAt? frame 0 EthernetHeader.length = some (octetsAt frame 0 14) :=
    headerAt?_eq_some (Nat.le_trans (by decide) hmin)
  have hipv4 : Frame.headerAt? frame EthernetHeader.length Ipv4Header.length =
      some (octetsAt frame 14 20) := headerAt?_eq_some (Nat.le_trans (by decide) hmin)
  have hudp : Frame.headerAt? frame (EthernetHeader.length + Ipv4Header.length) UdpHeader.size =
      some (octetsAt frame 34 8) := headerAt?_eq_some hmin
  have hetherType : (EthernetHeader.ofOctets (octetsAt frame 0 14)).etherType = wordAt frame 12 :=
    wordAt_octetsAt frame 0 (by decide)
  have hprotocol : (Ipv4Header.ofOctets (octetsAt frame 14 20)).protocol = octetAt frame 23 :=
    octetAt_octetsAt frame 14 (by decide)
  unfold Frame.headers?
  rw [if_neg (show ¬ frame.length > Frame.maxLength from Nat.not_lt_of_le hmax), hethernet, hipv4,
    hudp]
  simp only [Option.map_some, Option.bind_eq_bind, Option.bind_some, hetherType, hprotocol]
  cases filter.strictEtherType && wordAt frame 12 != etherTypeIpv4 with
  | true => rfl
  | false => by_cases hudp : octetAt frame 23 = protocolUdp <;> simp [hudp]

/-- The test on the EtherType, octet by octet. -/
theorem wordAt_beq_etherTypeIpv4 (hlength : 14 ≤ frame.length) :
    (wordAt frame 12 == etherTypeIpv4) = (octetAt frame 12 == 8 && octetAt frame 13 == 0) := by
  rw [Bool.eq_iff_iff, beq_iff_eq, wordAt_eq_etherTypeIpv4_iff hlength, Bool.and_eq_true,
    beq_iff_eq, beq_iff_eq]

/-- What is read of a knock frame. -/
theorem headers?_eq (filter : Filter) (frame : List UInt8) :
    Frame.headers? filter frame =
      if isKnock filter frame then
        some {
          ethernet := .ofOctets (octetsAt frame 0 14)
          ipv4 := .ofOctets (octetsAt frame 14 20)
          udp := .ofOctets (octetsAt frame 34 8)
          frameLength := frame.length }
      else none := by
  by_cases hmax : frame.length ≤ 60
  · by_cases hmin : 42 ≤ frame.length
    · have hword := wordAt_beq_etherTypeIpv4 (Nat.le_trans (show 14 ≤ 42 by decide) hmin)
      rw [headers?_of_fits filter hmin hmax, bne, hword]
      simp only [isKnock, hmin, hmax, decide_true, Bool.true_and]
      cases filter.strictEtherType <;>
        cases octetAt frame 12 == 8 && octetAt frame 13 == 0 <;>
          by_cases hudp : octetAt frame 23 = 17 <;> simp [hudp, protocolUdp]
    · rw [headers?_of_short filter (Nat.lt_of_not_le hmin)]
      simp [isKnock, hmin]
  · rw [headers?_of_long filter (Nat.lt_of_not_le hmax)]
    simp [isKnock, hmax]

theorem classify_eq (filter : Filter) (frame : List UInt8) :
    classify filter frame = if isKnock filter frame then some (knockOf frame) else none := by
  rw [classify, headers?_eq]
  cases isKnock filter frame with
  | false => rfl
  | true =>
    simp only [if_true, Option.map_some, Knock.ofHeaders, Ipv4Header.ofOctets, UdpHeader.ofOctets,
      knockOf, longAt_octetsAt frame 14 (show 12 + 4 ≤ 20 by decide),
      wordAt_octetsAt frame 34 (show 2 + 2 ≤ 8 by decide)]

end PortKnock
