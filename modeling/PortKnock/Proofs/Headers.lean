import PortKnock.Proofs.Inspection
import PortKnock.Proofs.Octets

/-!
# Headers as they stand in the frame

A frame is read as a knock or not at all.  If it is, nothing of its headers is
lost: their fields, laid out in order, are the first 42 octets of the frame
(`toOctets_ofOctets`).  If only the knock is asked for, less is needed: two
frames of one length that agree on the few places that are looked at carry the
same knock, or both carry none (`classify_congr`).

`KnockFrame` is the test of `PortKnock.Proofs.Inspection` as a statement about
the octets that are there.
-/

namespace PortKnock

open Octets

/-! ## Octets of parts of a list -/

section Parts

variable {octets octets' : List UInt8} {offset count : Nat}

theorem length_octetsAt (hoffset : offset + count ≤ octets.length) :
    (octetsAt octets offset count).length = count := by
  rw [octetsAt, List.length_take, List.length_drop]
  omega

/-- Two parts that lie behind each other are one part. -/
theorem octetsAt_append (octets : List UInt8) (offset count count' : Nat) :
    octetsAt octets offset count ++ octetsAt octets (offset + count) count' =
      octetsAt octets offset (count + count') := by
  rw [octetsAt, octetsAt, octetsAt, List.take_add, List.drop_drop]

theorem octetsAt_all (hlength : octets.length = count) : octetsAt octets 0 count = octets := by
  rw [octetsAt, List.drop_zero, ← hlength, List.take_length]

/-- Octets that are there are read as they are. -/
theorem getElem?_eq_octetAt (hoffset : offset < octets.length) :
    octets[offset]? = some (octetAt octets offset) := by
  rw [octetAt, List.getD_eq_getElem?_getD, List.getElem?_eq_getElem hoffset, Option.getD_some]

theorem octetAt_congr (hsame : octets[offset]? = octets'[offset]?) :
    octetAt octets offset = octetAt octets' offset := by
  rw [octetAt, octetAt, List.getD_eq_getElem?_getD, List.getD_eq_getElem?_getD, hsame]

theorem octetsAt_congr
    (hsame : ∀ i < count, octets[offset + i]? = octets'[offset + i]?) :
    octetsAt octets offset count = octetsAt octets' offset count := by
  apply List.ext_getElem?
  intro i
  rw [octetsAt, octetsAt, List.getElem?_take, List.getElem?_take]
  split
  · rename_i hi
    rw [List.getElem?_drop, List.getElem?_drop, hsame i hi]
  · rfl

theorem toNatBE_octetsAt_lt (octets : List UInt8) (offset count : Nat) :
    toNatBE (octetsAt octets offset count) < 256 ^ count :=
  Nat.lt_of_lt_of_le (toNatBE_lt _)
    (Nat.pow_le_pow_right (by decide) (List.length_take_le _ _))

theorem toNat_wordAt_eq_toNatBE (octets : List UInt8) (offset : Nat) :
    (wordAt octets offset).toNat = toNatBE (octetsAt octets offset 2) := by
  rw [wordAt, UInt16.toNat_ofNat']
  exact Nat.mod_eq_of_lt (toNatBE_octetsAt_lt octets offset 2)

theorem toNat_longAt_eq_toNatBE (octets : List UInt8) (offset : Nat) :
    (longAt octets offset).toNat = toNatBE (octetsAt octets offset 4) := by
  rw [longAt, UInt32.toNat_ofNat']
  exact Nat.mod_eq_of_lt (toNatBE_octetsAt_lt octets offset 4)

/-- A number that is read and written back gives its octets. -/
theorem ofNatBE_toNatBE_octetsAt (hoffset : offset + count ≤ octets.length) :
    ofNatBE count (toNatBE (octetsAt octets offset count)) = octetsAt octets offset count := by
  have hback := ofNatBE_toNatBE (octetsAt octets offset count)
  rwa [length_octetsAt hoffset] at hback

theorem ofNatBE_wordAt (hoffset : offset + 2 ≤ octets.length) :
    ofNatBE 2 (wordAt octets offset).toNat = octetsAt octets offset 2 := by
  rw [toNat_wordAt_eq_toNatBE, ofNatBE_toNatBE_octetsAt hoffset]

theorem ofNatBE_longAt (hoffset : offset + 4 ≤ octets.length) :
    ofNatBE 4 (longAt octets offset).toNat = octetsAt octets offset 4 := by
  rw [toNat_longAt_eq_toNatBE, ofNatBE_toNatBE_octetsAt hoffset]

/-- An Ethernet address that is there is its six octets. -/
theorem toList_macAt (hoffset : offset + 6 ≤ octets.length) :
    (macAt octets offset).toList = octetsAt octets offset 6 := by
  rw [octetsAt_succ (by omega), octetsAt_succ (by omega), octetsAt_four (by omega)]
  rfl

end Parts

/-! ## Headers laid out again -/

section Layouts

variable {octets : List UInt8}

theorem EthernetHeader.toOctets_ofOctets (hlength : octets.length = 14) :
    (EthernetHeader.ofOctets octets).toOctets = octets := by
  rw [toOctets, ofOctets, toList_macAt (by omega), toList_macAt (by omega),
    ofNatBE_wordAt (by omega), octetsAt_append, octetsAt_append, octetsAt_all hlength]

theorem Ipv4Header.toOctets_ofOctets (hlength : octets.length = 20) :
    (Ipv4Header.ofOctets octets).toOctets = octets := by
  have hpair {offset : Nat} (hoffset : offset + 2 ≤ octets.length) :
      [octetAt octets offset, octetAt octets (offset + 1)] = octetsAt octets offset 2 :=
    (octetsAt_two hoffset).symm
  rw [toOctets, ofOctets, hpair (by omega), hpair (by omega), ofNatBE_wordAt (by omega),
    ofNatBE_wordAt (by omega), ofNatBE_wordAt (by omega), ofNatBE_wordAt (by omega),
    ofNatBE_longAt (by omega), ofNatBE_longAt (by omega)]
  -- eight parts behind each other
  iterate 7 rw [octetsAt_append]
  exact octetsAt_all hlength

theorem UdpHeader.toOctets_ofOctets (hlength : octets.length = 8) :
    (UdpHeader.ofOctets octets).toOctets = octets := by
  rw [toOctets, ofOctets, ofNatBE_wordAt (by omega), ofNatBE_wordAt (by omega),
    ofNatBE_wordAt (by omega), ofNatBE_wordAt (by omega), octetsAt_append, octetsAt_append,
    octetsAt_append, octetsAt_all hlength]

end Layouts

/-! ## Which frames are read -/

/-- A frame that counts as a knock, by the octets that are there. -/
structure KnockFrame (filter : Filter) (frame : List UInt8) : Prop where
  min : 42 ≤ frame.length
  max : frame.length ≤ 60
  protocol : frame[23]? = some 17
  etherType : filter.strictEtherType = true → octetsAt frame 12 2 = [8, 0]

variable {filter : Filter} {frame frame' : List UInt8}

theorem isKnock_iff : isKnock filter frame = true ↔ KnockFrame filter frame := by
  simp only [isKnock, Bool.and_eq_true, Bool.or_eq_true, Bool.not_eq_true', decide_eq_true_eq,
    beq_iff_eq]
  constructor
  · rintro ⟨⟨⟨hmin, hmax⟩, hprotocol⟩, hetherType⟩
    refine ⟨hmin, hmax, ?_, fun hstrict => ?_⟩
    · rw [getElem?_eq_octetAt (by omega), hprotocol]
    · rcases hetherType with hlax | ⟨hhigh, hlow⟩
      · rw [hstrict] at hlax
        cases hlax
      · rw [octetsAt_two (by omega), hhigh, hlow]
  · rintro ⟨hmin, hmax, hprotocol, hetherType⟩
    refine ⟨⟨⟨hmin, hmax⟩, ?_⟩, ?_⟩
    · rw [getElem?_eq_octetAt (by omega), Option.some.injEq] at hprotocol
      exact hprotocol
    · cases hstrict : filter.strictEtherType with
      | false => exact Or.inl rfl
      | true =>
        have hboth := hetherType hstrict
        rw [octetsAt_two (by omega), List.cons.injEq, List.cons.injEq] at hboth
        exact Or.inr ⟨hboth.1, hboth.2.1⟩

/-! ## What is looked at -/

/-- The places of a frame that its knock depends on, besides its length. -/
def placesRead (filter : Filter) : List Nat :=
  (if filter.strictEtherType then [12, 13] else []) ++ [23, 26, 27, 28, 29, 36, 37]

theorem isKnock_congr (hlength : frame'.length = frame.length)
    (hsame : ∀ place ∈ placesRead filter, frame'[place]? = frame[place]?) :
    isKnock filter frame' = isKnock filter frame := by
  have hprotocol : octetAt frame' 23 = octetAt frame 23 :=
    octetAt_congr (hsame 23 (by simp [placesRead]))
  rw [isKnock, isKnock, hlength, hprotocol]
  cases hstrict : filter.strictEtherType with
  | false => rfl
  | true =>
    rw [octetAt_congr (hsame 12 (by simp [placesRead, hstrict])),
      octetAt_congr (hsame 13 (by simp [placesRead, hstrict]))]

theorem knockOf_congr (hsame : ∀ place ∈ placesRead filter, frame'[place]? = frame[place]?) :
    knockOf frame' = knockOf frame := by
  have hsource : octetsAt frame' 26 4 = octetsAt frame 26 4 :=
    octetsAt_congr fun i hi => hsame (26 + i) (by simp [placesRead]; omega)
  have hport : octetsAt frame' 36 2 = octetsAt frame 36 2 :=
    octetsAt_congr fun i hi => hsame (36 + i) (by simp [placesRead]; omega)
  rw [knockOf, knockOf, longAt, longAt, wordAt, wordAt, hsource, hport]

/-- Frames of one length that agree on the places that are read carry the same knock, or none. -/
theorem classify_congr (hlength : frame'.length = frame.length)
    (hsame : ∀ place ∈ placesRead filter, frame'[place]? = frame[place]?) :
    classify filter frame' = classify filter frame := by
  rw [classify_eq, classify_eq, isKnock_congr hlength hsame, knockOf_congr hsame]

/-! ## What is read -/

theorem headers?_isSome_iff (filter : Filter) (frame : List UInt8) :
    (Frame.headers? filter frame).isSome = true ↔ KnockFrame filter frame := by
  rw [headers?_eq, ← isKnock_iff]
  cases isKnock filter frame <;> simp

/-- The headers of a frame that is read are its octets, from the first one to the last of the
third header. -/
theorem toOctets_of_headers? {headers : Headers}
    (hheaders : Frame.headers? filter frame = some headers) :
    headers.frameLength = frame.length ∧ headers.ethernet.toOctets = octetsAt frame 0 14 ∧
      headers.ipv4.toOctets = octetsAt frame 14 20 ∧
      headers.udp.toOctets = octetsAt frame 34 8 := by
  have hknock : KnockFrame filter frame := by
    rw [← headers?_isSome_iff, hheaders, Option.isSome_some]
  have hmin := hknock.min
  rw [headers?_eq, if_pos (isKnock_iff.mpr hknock), Option.some.injEq] at hheaders
  subst hheaders
  exact ⟨rfl, EthernetHeader.toOctets_ofOctets (length_octetsAt (by omega)),
    Ipv4Header.toOctets_ofOctets (length_octetsAt (by omega)),
    UdpHeader.toOctets_ofOctets (length_octetsAt (by omega))⟩

/-- A frame gives a knock if its headers are read, and no other does. -/
theorem classify_isSome_iff (filter : Filter) (frame : List UInt8) :
    (classify filter frame).isSome = true ↔ KnockFrame filter frame := by
  rw [classify, Option.isSome_map, headers?_isSome_iff]

/-- The address of a knock as a number, and its other octets as they stand in the frame. -/
theorem octets_of_classify {knock : Knock} (hclassify : classify filter frame = some knock) :
    knock.source.toNat = toNatBE (octetsAt frame 26 4) ∧
      knock.portOctets = octetsAt frame 36 2 ∧ knock.reserved = 0 := by
  have hknock : KnockFrame filter frame := by
    rw [← classify_isSome_iff, hclassify, Option.isSome_some]
  have hmin := hknock.min
  rw [classify_eq, if_pos (isKnock_iff.mpr hknock), Option.some.injEq] at hclassify
  subst hclassify
  exact ⟨toNat_longAt_eq_toNatBE frame 26, ofNatBE_wordAt (by omega), rfl⟩

/-- Whether a frame is read, what is read of it, and what its knock depends on. -/
theorem read_exactly (filter : Filter) (frame : List UInt8) :
    ((Frame.headers? filter frame).isSome = true ↔ KnockFrame filter frame) ∧
      (∀ headers, Frame.headers? filter frame = some headers →
        headers.frameLength = frame.length ∧ headers.ethernet.toOctets = octetsAt frame 0 14 ∧
          headers.ipv4.toOctets = octetsAt frame 14 20 ∧
          headers.udp.toOctets = octetsAt frame 34 8) ∧
      ((classify filter frame).isSome = true ↔ KnockFrame filter frame) ∧
      (∀ knock, classify filter frame = some knock →
        knock.source.toNat = toNatBE (octetsAt frame 26 4) ∧
          knock.portOctets = octetsAt frame 36 2 ∧ knock.reserved = 0) ∧
      ∀ frame' : List UInt8, frame'.length = frame.length →
        (∀ place ∈ placesRead filter, frame'[place]? = frame[place]?) →
        classify filter frame' = classify filter frame :=
  ⟨headers?_isSome_iff filter frame, fun _ hheaders => toOctets_of_headers? hheaders,
    classify_isSome_iff filter frame, fun _ hclassify => octets_of_classify hclassify,
    fun _ hlength hsame => classify_congr hlength hsame⟩

/-- Two frames that differ wherever nobody looks carry the same knock. -/
theorem read_exactly_of_two_frames :
    let filter : Filter := { strictEtherType := true }
    let frame (rest : UInt8) : List UInt8 := List.replicate 12 rest ++ [8, 0] ++
      List.replicate 9 rest ++ [17, rest, rest, 10, 0, 0, 1] ++ List.replicate 6 rest ++
      [0xf2, 0xf9] ++ List.replicate 4 rest
    KnockFrame filter (frame 0) ∧ (classify filter (frame 0)).isSome = true ∧
      classify filter (frame 0xff) = classify filter (frame 0) := by
  intro filter frame
  have hknock : KnockFrame filter (frame 0) :=
    ⟨by decide, by decide, by decide, fun _ => by decide⟩
  obtain ⟨-, -, hclassify, -, hcongr⟩ := read_exactly filter (frame 0)
  exact ⟨hknock, hclassify.mpr hknock, hcongr _ (by decide) (by decide)⟩

end PortKnock
