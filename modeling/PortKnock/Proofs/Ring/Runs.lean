import PortKnock.Proofs.Ring.Layout

/-!
# Calls that run by themselves

Between calls that do not overlap, the ring is `Settled`: every reservation of
the history is complete, and no record is half read.  This file runs a whole
`output` and a whole `next` from such a state and says what they answer and
what they leave, case by case.  Nothing but the layout of the ring is looked
into, one action at a time.
-/

namespace PortKnock.Ring

open Octets Access

variable {ring : Ring} {log : List Reservation} {passed : Nat} {r : Reservation}

/-- No call is under way. -/
structure Settled (ring : Ring) (log : List Reservation) (passed : Nat) : Prop where
  layout : Layout ring log passed (fun _ => False)
  committed : ∀ r ∈ log, r.committed = true

theorem settled_of_make {size : UInt64} (hmake : make size = .ok ring) : Settled ring [] 0 :=
  ⟨Layout.of_make hmake, by simp⟩

/-! ## Writing -/

/-- Reserving as a whole: with nobody else around, the first attempt decides. -/
theorem run_reserveWithin {gone : Nat → Prop} (layout : Layout ring log passed gone)
    {total : UInt64} {attempts : Nat} (htotal : total.toNat < 2 ^ 63) :
    (reserveWithin ring.byteSize total (attempts + 1)).run ring =
      if ring.byteSize.toNat < 8 * (start log log.length - start log passed) + total.toNat then
        (.error .full, ring)
      else (.ok ring.producerPos, { ring with producerPos := ring.producerPos + total }) := by
  have hconsumer := layout.consumer_eq
  have hproducer := layout.producer_eq
  have hdistance := layout.toNat_distance_add (Nat.le_refl ring.producerPos.toNat) htotal
  have hfull : distance ring.producerPos ring.consumerPos + total > ring.byteSize ↔
      ring.byteSize.toNat < 8 * (start log log.length - start log passed) + total.toNat := by
    rw [gt_iff_lt, UInt64.lt_iff_toNat_lt, hdistance]
    omega
  simp only [reserveWithin_eq, reserveFrom_succ, run_bind, run_loadProducer, run_loadConsumer]
  by_cases hcondition :
      ring.byteSize.toNat < 8 * (start log log.length - start log passed) + total.toNat
  · simp [hfull.mpr hcondition, hcondition]
  · simp [mt hfull.mp hcondition, hcondition]

/-- Copying what is left of a payload. -/
theorem run_storeWords {gone : Nat → Prop} {k : Nat} (hk : log[k]? = some r)
    (hcommitted : r.committed = false) (rest : List UInt64) :
    ∀ {ring : Ring} {done : List UInt64} {pos : UInt64}, Layout ring log passed gone →
      payloadWords r.data = done ++ rest → pos.toNat = 8 * (start log k + 1 + done.length) →
      Copied ring log k done →
      ∃ ring', (storeWords pos rest).run ring = ((), ring') ∧ Layout ring' log passed gone ∧
        Copied ring' log k (payloadWords r.data) ∧ ring'.byteSize = ring.byteSize ∧
        ring'.producerPos = ring.producerPos ∧ ring'.consumerPos = ring.consumerPos ∧
        ring'.ready = ring.ready := by
  induction rest with
  | nil =>
    intro ring done pos layout hsplit _ hcopied
    rw [List.append_nil] at hsplit
    exact ⟨ring, rfl, layout, hsplit ▸ hcopied, rfl, rfl, rfl, rfl⟩
  | cons word rest ih =>
    intro ring done pos layout hsplit hpos hcopied
    obtain ⟨layout', hcopied', hpos'⟩ := layout.copy hk hcommitted hsplit hpos hcopied
    have hsplit' : payloadWords r.data = (done ++ [word]) ++ rest := by simpa using hsplit
    obtain ⟨ring', hrun, hrest⟩ := ih layout' hsplit' hpos' hcopied'
    refine ⟨ring', ?_, by simpa using hrest⟩
    rw [storeWords, run_bind, run_storeWord]
    exact hrun

/-- Whether a record that is published with `flags` wakes the reader, given whether the reader has
caught up with it. -/
def wakes (flags : UInt64) (caughtUp : Bool) : Bool :=
  flags &&& forceWakeup != 0 || flags &&& noWakeup == 0 && caughtUp

theorem run_notify (pos flags : UInt64) (ring : Ring) :
    (notify pos flags).run ring =
      ((), { ring with ready := ring.ready || wakes flags (ring.consumerPos == pos) }) := by
  unfold notify wakes
  by_cases hforce : flags &&& forceWakeup != 0
  · simp [hforce]
  · by_cases hquiet : flags &&& noWakeup == 0
    · by_cases hcaughtUp : ring.consumerPos = pos
      · simp [hforce, hquiet, hcaughtUp]
      · simp [hforce, hquiet, beq_eq_false_iff_ne.mpr hcaughtUp, hcaughtUp]
    · simp [hforce, hquiet]

variable {data : List UInt8}

/-- Octets between where the reader stands and where the next record would be reserved. -/
def used (log : List Reservation) (passed : Nat) : Nat :=
  8 * (start log log.length - start log passed)

theorem run_output_full (settled : Settled ring log passed) (hdata : Admissible ring.byteSize data)
    (flags : UInt64) (hfull : ring.byteSize.toNat < used log passed + footprint data.length) :
    (output ring.byteSize data flags).run ring = (.error .full, ring) := by
  have hlt := hdata.toNat_total_lt
  rw [output_eq hdata, run_bind, reserveAttempts, run_reserveWithin settled.layout (by omega),
    if_pos (by rw [hdata.toNat_total]; exact hfull)]
  rfl

/-- A payload for which there is room is accepted, even if the positions run over. -/
theorem run_output_accepts (settled : Settled ring log passed)
    (hdata : Admissible ring.byteSize data) (flags : UInt64)
    (hroom : used log passed + footprint data.length ≤ ring.byteSize.toNat) :
    ((output ring.byteSize data flags).run ring).1 = .ok () := by
  have hlt := hdata.toNat_total_lt
  unfold used at hroom
  rw [output_eq hdata, run_bind, reserveAttempts, run_reserveWithin settled.layout (by omega),
    if_neg (by rw [hdata.toNat_total]; omega)]
  simp [afterReserving]

theorem commitAt_concat (log : List Reservation) (r : Reservation) :
    commitAt (log ++ [r]) log.length = log ++ [{ r with committed := true }] := by
  induction log with
  | nil => rfl
  | cons first rest ih => exact congrArg (first :: ·) ih

/-- A payload for which there is room becomes the last record of the ring. -/
theorem run_output_ok (settled : Settled ring log passed) (hdata : Admissible ring.byteSize data)
    (flags : UInt64) (hroom : used log passed + footprint data.length ≤ ring.byteSize.toNat)
    (hbound : framed log + footprint data.length < 2 ^ 64) :
    ∃ ring', (output ring.byteSize data flags).run ring = (.ok (), ring') ∧
      Settled ring' (log ++ [⟨data, flags, ring.producerPos, true⟩]) passed ∧
      ring'.byteSize = ring.byteSize ∧
      ring'.ready = (ring.ready || wakes flags (passed == log.length)) := by
  let r : Reservation := ⟨data, flags, ring.producerPos, false⟩
  have htotal := hdata.toNat_total
  have hlt := hdata.toNat_total_lt
  have hbyteSize := settled.layout.wellFormed.byteSize_eq
  have hproducer := settled.layout.producer_eq
  have hconsumer := settled.layout.consumer_eq
  have hstart : start log passed ≤ start log log.length := start_le_start settled.layout.passed_le
  unfold used at hroom
  -- reserving
  obtain ⟨layout₁, hpos₁⟩ := settled.layout.reserve_data hdata flags hbound (by omega)
  have hr : (log ++ [r])[log.length]? = some r := List.getElem?_concat_length
  -- copying
  obtain ⟨ring₂, hrun₂, layout₂, hcopied₂, hbyteSize₂, _, hconsumer₂, hready₂⟩ :=
    run_storeWords hr rfl (payloadWords data) layout₁ rfl hpos₁ (copied_nil _ _ _)
  -- committing
  have layout₃ := layout₂.commit hr rfl hcopied₂
  rw [commitAt_concat] at layout₃
  have hcaughtUp : (ring.consumerPos == ring.producerPos) = (passed == log.length) := by
    rw [Bool.eq_iff_iff, beq_iff_eq, beq_iff_eq]
    exact settled.layout.consumerPos_eq_producerPos_iff
  refine ⟨{ ring₂.store r.pos r.header with
    ready := ring.ready || wakes flags (passed == log.length) }, ?_, ⟨layout₃.setReady _, ?_⟩,
    hbyteSize₂, rfl⟩
  · rw [output_eq hdata, run_bind, reserveAttempts, run_reserveWithin settled.layout (by omega),
      if_neg (by omega)]
    simp only [afterReserving, run_bind, writePayload_eq, storeOctets_eq, hrun₂, commit,
      run_storeWord, run_notify, run_pure, ready_store, consumerPos_store, hready₂, hconsumer₂,
      hcaughtUp]
    rfl
  · intro r' hr'
    rcases List.mem_append.mp hr' with hr' | hr'
    · exact settled.committed r' hr'
    · rw [List.mem_singleton.mp hr']

/-! ## Reading -/

/-- Taking what is left of a payload. -/
theorem run_takeWords {stop : UInt64} (hk : log[passed]? = some r) (hcommitted : r.committed = true)
    (hstop : stop.toNat = 8 * (start log passed + r.words)) (rest : List UInt64) :
    ∀ {ring : Ring} {taken : List UInt64} {pos : UInt64} {fuel : Nat},
      Layout ring log passed (fun o => 0 < o ∧ o ≤ taken.length) →
      payloadWords r.data = taken.reverse ++ rest →
      pos.toNat = 8 * (start log passed + 1 + taken.length) → rest.length < fuel →
      ∃ ring', (takeWords stop fuel pos taken).run ring = (payloadWords r.data, ring') ∧
        Layout ring' log passed (fun o => 0 < o ∧ o < r.words) ∧
        ring'.byteSize = ring.byteSize ∧ ring'.consumerPos = ring.consumerPos ∧
        ring'.ready = ring.ready := by
  induction rest with
  | nil =>
    intro ring taken pos fuel layout hsplit hpos hfuel
    rw [List.append_nil] at hsplit
    have hall := eq_words_of_end hsplit
    have hend := not_lt_stop_of_end hsplit hstop hpos
    obtain ⟨fuel, rfl⟩ := Nat.exists_eq_succ_of_ne_zero (Nat.ne_of_gt hfuel)
    refine ⟨ring, ?_, layout.congr_gone fun o => by omega, rfl, rfl, rfl⟩
    rw [takeWords_succ, if_neg hend, hsplit]
    rfl
  | cons word rest ih =>
    intro ring taken pos fuel layout hsplit hpos hfuel
    have hword := layout.word_next hk hcommitted hsplit hpos
    obtain ⟨layout', hpos'⟩ := layout.clear_next hk hcommitted hsplit hpos
    have hbefore := lt_stop_of_rest hsplit hstop hpos
    obtain ⟨fuel, rfl⟩ := Nat.exists_eq_succ_of_ne_zero (show fuel ≠ 0 by omega)
    rw [List.length_cons] at hfuel
    have hsplit' : payloadWords r.data = (word :: taken).reverse ++ rest := by simpa using hsplit
    obtain ⟨ring', hrun, hrest⟩ := ih layout' hsplit' hpos' (Nat.lt_of_succ_lt_succ hfuel)
    refine ⟨ring', ?_, by simpa using hrest⟩
    rw [takeWords_succ, if_pos hbefore, run_bind, run_loadWord, run_bind, run_storeWord, hword]
    exact hrun

/-- Taking a complete record as a whole. -/
theorem run_takeRecord (settled : Settled ring log passed) (hk : log[passed]? = some r) :
    ∃ ring', (takeRecord ring.consumerPos r.header).run ring = (r.data, ring') ∧
      Settled ring' log (passed + 1) ∧ ring'.byteSize = ring.byteSize ∧
      ring'.ready = ring.ready := by
  have layout := settled.layout
  have hr := List.mem_of_getElem? hk
  have hcommitted := settled.committed r hr
  have hvalid := layout.valid r hr
  have hconsumer := layout.consumer_eq
  have hstop : (ring.consumerPos + total r.data).toNat = 8 * (start log passed + r.words) := by
    rw [layout.toNat_end hk]
    omega
  have hnothing : Layout ring log passed fun o => 0 < o ∧ o ≤ ([] : List UInt64).length :=
    layout.congr_gone fun o => by simp; omega
  obtain ⟨ring₁, hrun₁, layout₁, hbyteSize₁, hconsumer₁, hready₁⟩ :=
    run_takeWords hk hcommitted hstop (payloadWords r.data) hnothing rfl (layout.toNat_first hk)
      (length_payloadWords_lt hvalid)
  have hheader : ring.consumerPos.toNat / 8 = start log passed + 0 := by omega
  have layout₂ := layout₁.clear hk hcommitted r.words_pos hheader
  have hend₂ : (ring.consumerPos + total r.data).toNat =
      (ring₁.store ring.consumerPos 0).consumerPos.toNat + 8 * r.words := by
    rw [consumerPos_store, hconsumer₁]
    exact layout.toNat_end hk
  have layout₃ := layout₂.pass hk hcommitted (fun o ho => by omega) hend₂
  refine ⟨_, ?_, ⟨layout₃, settled.committed⟩, hbyteSize₁, hready₁⟩
  have hdata := toNat_ofNat_length hvalid.length_le
  simp only [takeRecord_eq, hvalid.header_and_lengthMask, run_bind, run_storeWord,
    run_storeConsumer, run_pure, hdata]
  rw [← total, hrun₁]
  exact congrArg (·, _) (take_octets_payloadWords r.data)

/-- What the reader finds at its position. -/
private theorem word_consumerPos_of_settled (settled : Settled ring log passed) :
    ring.word ring.consumerPos = (log[passed]?.map Reservation.header).getD 0 := by
  rw [settled.layout.word_consumerPos not_false]
  cases hk : log[passed]? with
  | none => rfl
  | some r =>
    have hcommitted := settled.committed r (List.mem_of_getElem? hk)
    simp [hcommitted]

/-- Nothing is there: the reader looks twice, and all wakeups are taken back in between. -/
theorem run_next_none (settled : Settled ring log passed) (hk : log[passed]? = none) :
    next.run ring = (none, { ring with ready := false }) := by
  have hword : ring.word ring.consumerPos = 0 := by
    rw [word_consumerPos_of_settled settled, hk]
    rfl
  have hagain : ({ ring with ready := false } : Ring).word ring.consumerPos = 0 := hword
  simp [next_eq, hword, hagain, isCommitted_zero]

/-- The oldest record is taken. -/
theorem run_next_some (settled : Settled ring log passed) (hk : log[passed]? = some r) :
    ∃ ring', next.run ring = (some r.data, ring') ∧ Settled ring' log (passed + 1) ∧
      ring'.byteSize = ring.byteSize ∧ ring'.ready = ring.ready := by
  have hword : ring.word ring.consumerPos = r.header := by
    rw [word_consumerPos_of_settled settled, hk]
    rfl
  obtain ⟨ring', hrun, hrest⟩ := run_takeRecord settled hk
  refine ⟨ring', ?_, hrest⟩
  have hcommitted : isCommitted r.header = true := isCommitted_committedHeader _
  simp [next_eq, hword, hcommitted, hrun]

end PortKnock.Ring
