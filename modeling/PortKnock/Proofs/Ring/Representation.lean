import Mathlib.Data.List.Nodup
import Mathlib.Order.Interval.Finset.Nat
import PortKnock.Proofs.Ring.Deposits

/-!
# What the words of the ring stand for

At every moment the storage holds the records that are reserved and not yet
consumed, one behind the other, and zeros everywhere else (`Represents`).  So a
header can be told from a word that nobody has written, wherever the next record
is going to start, and whatever payload was there before.

## Strategy

Numbered from position zero, round after round, the words of the live records
follow on each other without a gap (`Tiles.flatMap_slots`).  There is no more
than one round of them, so no two have the same place in the storage; and a
place that none of them has is a place of the room that is free.
-/

namespace PortKnock.Ring

/-- The places in the storage of the words of a record. -/
def Reservation.slots (ring : Ring) (r : Reservation) : List Nat :=
  (List.range r.words).map fun o => ring.slot (r.pos + 8 * UInt64.ofNat o)

/-- Records lie behind each other without a gap, from one position to another. -/
def Tiles : (first : Nat) → List Reservation → (stop : Nat) → Prop
  | first, [], stop => first = stop
  | first, r :: rest, stop =>
    r.pos.toNat = first ∧ Tiles (first + footprint r.data.length) rest stop

/-- A ring with a history of which the reservations `live` have not been consumed. -/
structure Represents (ring : Ring) (log live : List Reservation) : Prop where
  consumer_le : ring.consumerPos.toNat ≤ ring.producerPos.toNat
  producer_le : ring.producerPos.toNat ≤ ring.consumerPos.toNat + ring.byteSize.toNat
  consumer_dvd : 8 ∣ ring.consumerPos.toNat
  producer_dvd : 8 ∣ ring.producerPos.toNat
  tiles : Tiles ring.consumerPos.toNat live ring.producerPos.toNat
  /-- No word belongs to two records, or twice to one. -/
  disjoint : (live.flatMap (Reservation.slots ring)).Nodup
  /-- A record that is not complete is still there, and has no header yet. -/
  pending : ∀ r ∈ log, r.committed = false → r ∈ live ∧ ring.word r.pos = 0
  zero : ∀ i < ring.words.size, i ∉ live.flatMap (Reservation.slots ring) →
    ring.words[i]? = some 0
  /-- A ring that is drained is as it was made. -/
  drained : ring.consumerPos = ring.producerPos →
    ring.words = Array.replicate (ring.byteSize / 8).toNat 0

variable {ring : Ring} {log records : List Reservation} {first stop passed : Nat}
  {gone : Nat → Prop} {r : Reservation}

/-! ## Records without a gap -/

theorem Tiles.le (tiles : Tiles first records stop) : first ≤ stop := by
  induction records generalizing first with
  | nil => exact Nat.le_of_eq tiles
  | cons r rest ih => exact Nat.le_trans (Nat.le_add_right _ _) (ih tiles.2)

theorem slots_eq (hring : ring.WellFormed) (hpos : r.pos.toNat = 8 * first)
    (hend : 8 * (first + r.words) < 2 ^ 64) :
    r.slots ring = (List.range' first r.words).map (· % ring.words.size) := by
  rw [Reservation.slots, List.range'_eq_map_range, List.map_map]
  refine List.map_congr_left fun o ho => ?_
  have hlt : o < r.words := List.mem_range.mp ho
  have height : (8 : UInt64).toNat = 8 := rfl
  have hword : (r.pos + 8 * UInt64.ofNat o).toNat = 8 * (first + o) := by
    rw [UInt64.toNat_add, UInt64.toNat_mul, UInt64.toNat_ofNat', height, hpos]
    omega
  have hnumber : (r.pos + 8 * UInt64.ofNat o).toNat / 8 = first + o := by omega
  rw [slot_eq_mod hring, hnumber]
  rfl

/-- The words of records without a gap are consecutive ones. -/
theorem Tiles.flatMap_slots (hring : ring.WellFormed) (tiles : Tiles (8 * first) records (8 * stop))
    (hstop : 8 * stop < 2 ^ 64) :
    records.flatMap (Reservation.slots ring) =
      (List.range' first (stop - first)).map (· % ring.words.size) := by
  induction records generalizing first with
  | nil =>
    have heq : 8 * first = 8 * stop := tiles
    have hnone : stop - first = 0 := by omega
    rw [hnone]
    rfl
  | cons r rest ih =>
    obtain ⟨hpos, hrest⟩ := tiles
    have hnext : 8 * first + footprint r.data.length = 8 * (first + r.words) :=
      (Nat.mul_add _ _ _).symm
    rw [hnext] at hrest
    have hle := hrest.le
    -- the words of the first record, and behind them those of the others
    have hsplit : stop - first = r.words + (stop - (first + r.words)) := by omega
    rw [List.flatMap_cons, ih hrest, slots_eq hring hpos (by omega), ← List.map_append,
      List.range'_append_1, hsplit]

/-- Whatever the history is, its reservations lie behind each other from any of them on. -/
theorem Layout.tiles (layout : Layout ring log passed gone) {k : Nat} (hk : k ≤ log.length) :
    Tiles (8 * start log k) (log.drop k) (8 * start log log.length) := by
  induction hrest : log.length - k generalizing k with
  | zero =>
    obtain rfl : k = log.length := by omega
    rw [List.drop_length]
    exact rfl
  | succ n ih =>
    have hlt : k < log.length := by omega
    have hr := List.getElem?_eq_getElem hlt
    have hnext : 8 * start log k + footprint log[k].data.length = 8 * start log (k + 1) := by
      rw [start_succ hr, Nat.mul_add]
      rfl
    rw [List.drop_eq_getElem_cons hlt]
    refine ⟨layout.pos_eq k _ hr, ?_⟩
    rw [hnext]
    exact ih hlt (by omega)

/-! ## One round of words -/

theorem nodup_range'_mod {count size : Nat} (hcount : count ≤ size) :
    ((List.range' first count).map (· % size)).Nodup := by
  refine List.Nodup.map_on (fun i hi j hj hij => ?_) List.nodup_range'
  rw [List.mem_range'_1] at hi hj
  by_contra hne
  exact mod_ne_mod_of_lt hne (by omega) (by omega) hij

/-- Every place in the storage has a number in every round. -/
theorem exists_mod_eq {i size : Nat} (hi : i < size) (first : Nat) :
    ∃ j, first ≤ j ∧ j < first + size ∧ j % size = i := by
  have hmem : i ∈ (Finset.Ico first (first + size)).image (· % size) := by
    rw [Nat.image_Ico_mod]
    exact Finset.mem_range.mpr hi
  obtain ⟨j, hj, hmod⟩ := Finset.mem_image.mp hmem
  obtain ⟨hlow, hhigh⟩ := Finset.mem_Ico.mp hj
  exact ⟨j, hlow, hhigh, hmod⟩

/-- A place that no live record has is zero. -/
theorem Layout.eq_zero_of_free (layout : Layout ring log passed gone) {i : Nat}
    (hi : i < ring.words.size)
    (hfree : i ∉ (List.range' (start log passed) (start log log.length - start log passed)).map
      (· % ring.words.size)) :
    ring.words[i]? = some 0 := by
  obtain ⟨j, hlow, hhigh, hmod⟩ := exists_mod_eq hi (start log passed)
  -- in the round from where the reader stands, the place has a number behind all records
  have hbehind : start log log.length ≤ j := by
    by_contra hlt
    refine hfree (List.mem_map.mpr ⟨j, ?_, hmod⟩)
    rw [List.mem_range'_1]
    omega
  have hzero := layout.free j hbehind hhigh
  rw [cell, hmod, Array.getD_eq_getD_getElem?, Array.getElem?_eq_getElem hi] at hzero
  rw [Array.getElem?_eq_getElem hi]
  exact congrArg some hzero

theorem Layout.represents (layout : Layout ring log passed gone) :
    Represents ring log (log.drop passed) := by
  have hconsumer := layout.consumer_eq
  have hproducer := layout.producer_eq
  have hbyteSize := layout.wellFormed.byteSize_eq
  have hfits := layout.fits
  have hlt := ring.producerPos.toNat_lt
  have hle : start log passed ≤ start log log.length := start_le_start layout.passed_le
  -- the live records take the words from the reader's position to the writers', each of them once
  have tiles := layout.tiles layout.passed_le
  have hslots := tiles.flatMap_slots layout.wellFormed (by omega)
  have hzero : ∀ i < ring.words.size,
      i ∉ (log.drop passed).flatMap (Reservation.slots ring) → ring.words[i]? = some 0 := by
    intro i hi hfree
    rw [hslots] at hfree
    exact layout.eq_zero_of_free hi hfree
  constructor
  case consumer_le => omega
  case producer_le => omega
  case consumer_dvd => exact ⟨_, hconsumer⟩
  case producer_dvd => exact ⟨_, hproducer⟩
  case tiles =>
    rw [hconsumer, hproducer]
    exact tiles
  case disjoint =>
    rw [hslots]
    exact nodup_range'_mod (by omega)
  case pending =>
    intro r hr hpending
    obtain ⟨k, hk⟩ := List.getElem?_of_mem hr
    have hpassed := layout.le_of_pending hk hpending
    have hnumber : r.pos.toNat / 8 = start log k := by
      rw [layout.pos_eq k r hk]
      omega
    refine ⟨List.mem_of_getElem? (i := k - passed) ?_, ?_⟩
    · rw [List.getElem?_drop, Nat.add_sub_cancel' hpassed, hk]
    · rw [word_eq_cell layout.wellFormed, hnumber]
      exact layout.pending k r hk hpending
  case zero => exact hzero
  case drained =>
    intro hdrained
    have hall := layout.consumerPos_eq_producerPos_iff.mp hdrained
    have hsize : (ring.byteSize / 8).toNat = ring.words.size := by
      rw [UInt64.toNat_div, hbyteSize]
      exact Nat.mul_div_cancel_left _ (by decide)
    refine Array.ext (by rw [Array.size_replicate, hsize]) fun i hi _ => ?_
    have hword := hzero i hi (by rw [hall, List.drop_length]; exact List.not_mem_nil)
    rw [Array.getElem?_eq_getElem hi, Option.some.injEq] at hword
    rw [hword, Array.getElem_replicate]

/-! ## Every moment -/

namespace Deposits

variable {ι : Type} {d : Deposits ι}

/-- Records that the reader has handed out or is about to. -/
def consumed (d : Deposits ι) : Nat :=
  d.delivered.length + match d.reading with
    | some (.done (some _)) => 1
    | _ => 0

/-- The reservations that have not been consumed, in the order in which they were won. -/
def live (d : Deposits ι) : List Reservation :=
  d.log.drop d.consumed

theorem consumed_eq {reading : Reading} (hreading : reading.work = d.reading) :
    d.consumed = d.delivered.length + reading.ahead := by
  rw [consumed, ← hreading]
  congr 1
  split
  · rename_i hdone
    rw [Reading.eq_returning_of_work hdone]
    rfl
  · rename_i hother
    cases reading with
    | returning answer =>
      cases answer with
      | none => rfl
      | some record => exact absurd rfl (hother record)
    | _ => rfl

/-- However the owners reserve, copy and commit, and however the reader takes the records
meanwhile: at every moment the ring holds the records that are live, and zeros elsewhere, and no
position ever goes back. -/
theorem represents_of_run [DecidableEq ι] {size : UInt64} (hmake : make size = .ok ring)
    {moves : List (Move ι)} (hrun : (initial ι ring).run moves = some d)
    (hbound : framed d.log < 2 ^ 64) :
    Represents d.ring d.log d.live ∧
      ∀ moves' d', d.run moves' = some d' → framed d'.log < 2 ^ 64 →
        d.ring.producerPos ≤ d'.ring.producerPos ∧ d.ring.consumerPos ≤ d'.ring.consumerPos := by
  obtain ⟨⟨s, reading, mirror, consistent⟩, _⟩ :=
    (mirror_initial ring).run (Traffic.initial_consistent hmake) hrun hbound
  constructor
  · have layout := consistent.layout
    rw [mirror.ring_eq, mirror.log_eq, mirror.delivered_eq,
      ← consumed_eq (consistent.reading_eq.trans mirror.reading_eq)] at layout
    exact layout.represents
  · intro moves' d' hrun' hbound'
    obtain ⟨_, hproducer, hconsumer⟩ := mirror.run consistent hrun' hbound'
    exact ⟨UInt64.le_iff_toNat_le.mpr hproducer, UInt64.le_iff_toNat_le.mpr hconsumer⟩

/-- A record over the end of the storage, half of it copied, behind one that has been consumed,
while another payload finds no room at all. -/
theorem represents_of_run_over_the_end :
    ∃ ring d, make 32 = .ok ring ∧
      (initial Bool ring).run
        [.reserve false [1, 2, 3], .act false, .act false, .act false,
          .reserve true (List.replicate 25 4), .act true, .act true, .leave true,
          .write false, .act false, .commit false, .act false, .leave false,
          .next, .read, .read, .read, .read, .read, .read, .deliver,
          .reserve true (List.replicate 24 5), .act true, .act true, .act true,
          .write true, .act true, .act true, .next, .read, .read] = some d ∧
      framed d.log < 2 ^ 64 ∧ d.live = [⟨List.replicate 24 5, noWakeup, 16, false⟩] ∧
      d.ring.words = #[0x0505050505050505, 0, 0, 0x0505050505050505] ∧
      Represents d.ring d.log d.live := by
  have hmake : make 32 = .ok { words := #[0, 0, 0, 0], byteSize := 32 } := rfl
  have hseen : ((initial Bool { words := #[0, 0, 0, 0], byteSize := 32 }).run
      [.reserve false [1, 2, 3], .act false, .act false, .act false,
        .reserve true (List.replicate 25 4), .act true, .act true, .leave true,
        .write false, .act false, .commit false, .act false, .leave false,
        .next, .read, .read, .read, .read, .read, .read, .deliver,
        .reserve true (List.replicate 24 5), .act true, .act true, .act true,
        .write true, .act true, .act true, .next, .read, .read]).map
      (fun d => (d.live, d.ring.words, framed d.log)) =
        some ([⟨List.replicate 24 5, noWakeup, 16, false⟩],
          #[0x0505050505050505, 0, 0, 0x0505050505050505], 48) := by
    decide +kernel
  obtain ⟨d, hrun, hd⟩ := Option.map_eq_some_iff.mp hseen
  obtain ⟨hlive, hd⟩ := Prod.mk.inj hd
  obtain ⟨hwords, hframed⟩ := Prod.mk.inj hd
  have hbound : framed d.log < 2 ^ 64 := by
    rw [hframed]
    decide
  exact ⟨_, d, hmake, hrun, hbound, hlive, hwords, (represents_of_run hmake hrun hbound).1⟩

end Deposits

end PortKnock.Ring
