import PortKnock.Proofs.Ring.Progress

/-!
# Records are delivered once and in order

Whatever the order of the requests of all writers and the reader, the reader
hands out the payloads of the reservations in the order in which these were
won, and never comes past a reservation that is not complete.

## Strategy

`Consistent` says that every party is in a sound stage and that no two calls
have won the same reservation.  A party's own requests keep its stage sound
(`PortKnock.Proofs.Ring.Progress`), and the others' requests do not disturb it
(`PortKnock.Proofs.Ring.Reliance`); so every move keeps the whole consistent, and
with it every run.
-/

namespace PortKnock.Ring

/-- A call is in a sound stage. -/
def Call.Sound (ring : Ring) (log : List Reservation) (call : Call) : Prop :=
  ∃ stage : Writing, call.work = stage.work ring.byteSize call.data call.flags ∧
    stage.Sound ring log call.data call.flags call.place

theorem Writing.Sound.place_lt {ring : Ring} {log : List Reservation} {data : List UInt8}
    {flags : UInt64} {stage : Writing} {k : Nat}
    (sound : stage.Sound ring log data flags (some k)) : k < log.length := by
  cases sound with
  | copying hk | deciding hk | signalling hk | written hk =>
    exact (List.getElem?_eq_some_iff.mp hk).1

/-- A new call is either turned away at once or about to reserve. -/
theorem Call.sound_output (ring : Ring) (log : List Reservation) (data : List UInt8)
    (flags : UInt64) :
    Call.Sound ring log { data, flags, work := output ring.byteSize data flags } := by
  by_cases hempty : data = []
  · subst hempty
    exact ⟨_, rfl, .refused⟩
  by_cases hlarge : ring.byteSize.toNat < footprint data.length ∨ lengthMask.toNat < data.length
  · exact ⟨.finished (.error .tooLarge), output_of_tooLarge hempty flags hlarge, .refused⟩
  have hdata : Admissible ring.byteSize data :=
    ⟨hempty, Nat.le_of_not_lt (mt Or.inl hlarge), Nat.le_of_not_lt (mt Or.inr hlarge)⟩
  exact ⟨.arriving, output_eq hdata flags, .arriving hdata⟩

/-- A call that is in a sound stage gets into another one. -/
theorem Call.Sound.act {ring ring' : Ring} {log : List Reservation} {passed : Nat}
    {gone : Nat → Prop} {call : Call} {request : Request} {reply : request.Reply}
    {next : request.Reply → Access (Except Refusal Unit)} (sound : call.Sound ring log)
    (layout : Layout ring log passed gone) (hwork : call.work = .request request next)
    (hperform : ring.perform request = (reply, ring'))
    (hbound : framed (call.record log request reply).1 < 2 ^ 64) :
    Writing.Advance ring log passed gone call.place ring' (call.record log request reply).1
        (call.record log request reply).2 ∧
      Call.Sound ring' (call.record log request reply).1
        { call with work := next reply, place := (call.record log request reply).2 } := by
  obtain ⟨stage, hstage, sound⟩ := sound
  obtain ⟨stage', hstep, hnext⟩ := Writing.step_of_work (hstage.symm.trans hwork) reply
  obtain ⟨advance, sound'⟩ := hstep.advance layout sound hperform hbound
  obtain ⟨_, beside, _⟩ := advance.beside
  refine ⟨advance, stage', ?_, sound'⟩
  rw [beside.byteSize_eq]
  exact hnext

/-- A call in a sound stage is not disturbed by what leaves its reservation alone. -/
theorem Call.Sound.beside {ring ring' : Ring} {log log' : List Reservation} {own : Option Nat}
    {call : Call} (sound : call.Sound ring log) (beside : Beside own ring log ring' log')
    (hplace : ∀ k, call.place = some k → own ≠ some k) : call.Sound ring' log' := by
  obtain ⟨stage, hstage, sound⟩ := sound
  refine ⟨stage, ?_, sound.beside beside hplace⟩
  rw [beside.byteSize_eq]
  exact hstage

theorem Call.Sound.place_lt {ring : Ring} {log : List Reservation} {call : Call} {k : Nat}
    (sound : call.Sound ring log) (hplace : call.place = some k) : k < log.length := by
  obtain ⟨stage, _, sound⟩ := sound
  rw [hplace] at sound
  exact sound.place_lt

namespace Traffic

variable {ι : Type} [DecidableEq ι] {s s' : Traffic ι} {reading : Reading} {i j : ι}

/-- Everybody is in a sound stage, the reader in the given one. -/
structure Consistent (s : Traffic ι) (reading : Reading) : Prop where
  reading_eq : reading.work = s.reading
  layout : Layout s.ring s.log (s.delivered.length + reading.ahead) reading.gone
  reader : reading.Sound s.ring s.log s.delivered.length
  writers : ∀ i call, s.calls i = some call → call.Sound s.ring s.log
  distinct : ∀ i j call call' k, s.calls i = some call → s.calls j = some call' →
    call.place = some k → call'.place = some k → i = j
  delivered : s.delivered <+: s.log.map Reservation.data

omit [DecidableEq ι] in
theorem initial_consistent {size : UInt64} {ring : Ring} (hmake : make size = .ok ring) :
    (initial ι ring).Consistent .idle where
  reading_eq := rfl
  layout := Layout.of_make hmake
  reader := .idle
  writers := by simp [initial]
  distinct := by simp [initial]
  delivered := List.nil_prefix

/-! ## Moves of writers -/

/-- The calls once one writer has gone on are the new one and the old ones of the others. -/
theorem calls_update {calls : ι → Option Call} {new : Option Call} {call : Call}
    (hcall : Function.update calls i new j = some call) :
    j = i ∧ new = some call ∨ j ≠ i ∧ calls j = some call := by
  by_cases hji : j = i
  · subst hji
    rw [Function.update_self] at hcall
    exact Or.inl ⟨rfl, hcall⟩
  · rw [Function.update_of_ne hji] at hcall
    exact Or.inr ⟨hji, hcall⟩

theorem step_enter_consistent {data : List UInt8} {flags : UInt64}
    (consistent : s.Consistent reading) (hstep : s.step (.enter i data flags) = some s') :
    s'.Consistent reading := by
  obtain ⟨_, rfl⟩ := step_enter hstep
  refine { consistent with writers := ?_, distinct := ?_ }
  · intro j call hcall
    rcases calls_update hcall with ⟨_, hnew⟩ | ⟨_, hold⟩
    · cases hnew
      exact Call.sound_output _ _ _ _
    · exact consistent.writers j call hold
  · intro j j' call call' k hcall hcall' hplace hplace'
    rcases calls_update hcall with ⟨_, hnew⟩ | ⟨_, hold⟩
    · cases hnew
      cases hplace
    · rcases calls_update hcall' with ⟨_, hnew⟩ | ⟨_, hold'⟩
      · cases hnew
        cases hplace'
      · exact consistent.distinct j j' call call' k hold hold' hplace hplace'

theorem step_leave_consistent (consistent : s.Consistent reading)
    (hstep : s.step (.leave i) = some s') : s'.Consistent reading := by
  obtain ⟨_, _, _, _, rfl⟩ := step_leave hstep
  have hold : ∀ {j call}, Function.update s.calls i none j = some call →
      s.calls j = some call := by
    intro j call hcall
    rcases calls_update hcall with ⟨_, hnew⟩ | ⟨_, hold⟩
    · cases hnew
    · exact hold
  exact { consistent with
    writers := fun j call hcall => consistent.writers j call (hold hcall)
    distinct := fun j j' call call' k hcall hcall' =>
      consistent.distinct j j' call call' k (hold hcall) (hold hcall') }

theorem step_act_consistent (consistent : s.Consistent reading)
    (hstep : s.step (.act i) = some s') (hbound : framed s'.log < 2 ^ 64) :
    s'.Consistent reading := by
  obtain ⟨call, request, next, hcall, hwork, rfl⟩ := step_act hstep
  have hperform : s.ring.perform request =
      ((s.ring.perform request).1, (s.ring.perform request).2) := rfl
  obtain ⟨advance, sound'⟩ :=
    (consistent.writers i call hcall).act consistent.layout hwork hperform hbound
  obtain ⟨own, beside, hown⟩ := advance.beside
  -- the place of this call is none that another call has
  have hfree : ∀ {j call' k}, j ≠ i → s.calls j = some call' → call'.place = some k →
      (call.record s.log request (s.ring.perform request).1).2 ≠ some k := by
    intro j call' k hji hcall' hplace hplace'
    rcases advance.place_eq with heq | heq
    · exact hji (consistent.distinct j i call' call k hcall' hcall hplace (heq ▸ hplace'))
    · have hlt := (consistent.writers j call' hcall').place_lt hplace
      rw [heq, Option.some.injEq] at hplace'
      omega
  refine ⟨consistent.reading_eq, advance.layout,
    consistent.reader.beside beside advance.consumerPos_eq, ?_, ?_,
    consistent.delivered.trans beside.data_prefix⟩
  · intro j call' hcall'
    rcases calls_update hcall' with ⟨_, hnew⟩ | ⟨hji, hold⟩
    · cases hnew
      exact sound'
    · refine (consistent.writers j call' hold).beside beside fun k hk hk' => ?_
      exact hji (consistent.distinct j i call' call k hold hcall hk (hown k hk'))
  · intro j j' call₁ call₂ k hcall₁ hcall₂ hplace₁ hplace₂
    -- only the call that has gone on may have a place that it did not have before
    rcases calls_update hcall₁ with ⟨rfl, hnew₁⟩ | ⟨hji, hold₁⟩
    · rcases calls_update hcall₂ with ⟨rfl, _⟩ | ⟨hji', hold₂⟩
      · rfl
      · cases hnew₁
        exact absurd hplace₁ (hfree hji' hold₂ hplace₂)
    · rcases calls_update hcall₂ with ⟨rfl, hnew₂⟩ | ⟨_, hold₂⟩
      · cases hnew₂
        exact absurd hplace₂ (hfree hji hold₁ hplace₁)
      · exact consistent.distinct j j' call₁ call₂ k hold₁ hold₂ hplace₁ hplace₂

/-! ## Moves of the reader -/

omit [DecidableEq ι] in
/-- What has been handed out, and the record that comes next. -/
theorem Consistent.delivered_concat (consistent : s.Consistent reading) {r : Reservation}
    (hk : s.log[s.delivered.length]? = some r) :
    s.delivered ++ [r.data] <+: s.log.map Reservation.data := by
  obtain ⟨rest, hrest⟩ := consistent.delivered
  have hhead : rest[0]? = some r.data := by
    have hmap : (s.log.map Reservation.data)[s.delivered.length]? = some r.data := by
      rw [List.getElem?_map, hk, Option.map_some]
    rw [← hrest, List.getElem?_append_right (Nat.le_refl _), Nat.sub_self] at hmap
    exact hmap
  cases rest with
  | nil => cases hhead
  | cons first rest =>
    cases hhead
    exact ⟨rest, by rw [← hrest, List.append_assoc, List.singleton_append]⟩

theorem step_next_consistent (consistent : s.Consistent reading)
    (hstep : s.step .next = some s') : s'.Consistent .locating := by
  obtain ⟨hidle, rfl⟩ := step_next hstep
  have hreading := Reading.eq_idle_of_work (consistent.reading_eq.trans hidle)
  subst hreading
  exact { consistent with reading_eq := rfl, reader := .locating }

theorem step_read_consistent (consistent : s.Consistent reading)
    (hstep : s.step .read = some s') : ∃ reading', s'.Consistent reading' ∧
      ∃ request reply, Reading.Step reading request reply reading' ∧
        s.ring.perform request = (reply, s'.ring) := by
  obtain ⟨request, next, hwork, rfl⟩ := step_read hstep
  have hperform : s.ring.perform request =
      ((s.ring.perform request).1, (s.ring.perform request).2) := rfl
  obtain ⟨reading', hrequest, hnext⟩ :=
    Reading.step_of_work (consistent.reading_eq.trans hwork) (s.ring.perform request).1
  have advance := hrequest.advance consistent.layout consistent.reader hperform
  refine ⟨reading', { consistent with
    reading_eq := hnext
    layout := advance.layout
    reader := advance.sound
    writers := ?_ }, _, _, hrequest, rfl⟩
  intro j call hcall
  exact (consistent.writers j call hcall).beside advance.beside (by simp)

theorem step_deliver_consistent (consistent : s.Consistent reading)
    (hstep : s.step .deliver = some s') : s'.Consistent .idle := by
  obtain ⟨answer, hwork, rfl⟩ := step_deliver hstep
  have hreading := Reading.eq_returning_of_work (consistent.reading_eq.trans hwork)
  subst hreading
  cases answer with
  | none =>
    have layout : Layout s.ring s.log s.delivered.length fun _ => False := consistent.layout
    refine { consistent with reading_eq := rfl, layout := ?_, reader := .idle, delivered := ?_ }
    · simpa [Reading.ahead, Reading.gone] using layout
    · simpa using consistent.delivered
  | some data =>
    have layout : Layout s.ring s.log (s.delivered.length + 1) fun _ => False := consistent.layout
    obtain ⟨r, hk, hdata⟩ : ∃ r, s.log[s.delivered.length]? = some r ∧ r.data = data := by
      cases consistent.reader with
      | returning hk _ => exact ⟨_, hk, rfl⟩
    refine { consistent with reading_eq := rfl, layout := ?_, reader := .idle, delivered := ?_ }
    · simpa [Reading.ahead, Reading.gone] using layout
    · rw [← hdata]
      exact consistent.delivered_concat hk

/-! ## Runs -/

theorem step_consistent {move : Move ι} (consistent : s.Consistent reading)
    (hstep : s.step move = some s') (hbound : framed s'.log < 2 ^ 64) :
    ∃ reading', s'.Consistent reading' := by
  cases move with
  | enter i data flags => exact ⟨reading, step_enter_consistent consistent hstep⟩
  | act i => exact ⟨reading, step_act_consistent consistent hstep hbound⟩
  | leave i => exact ⟨reading, step_leave_consistent consistent hstep⟩
  | next => exact ⟨_, step_next_consistent consistent hstep⟩
  | read =>
    obtain ⟨reading', consistent', _⟩ := step_read_consistent consistent hstep
    exact ⟨reading', consistent'⟩
  | deliver => exact ⟨_, step_deliver_consistent consistent hstep⟩

/-- No request moves a position back. -/
theorem positions_le_step {move : Move ι} (consistent : s.Consistent reading)
    (hstep : s.step move = some s') (hbound : framed s'.log < 2 ^ 64) :
    s.ring.producerPos.toNat ≤ s'.ring.producerPos.toNat ∧
      s.ring.consumerPos.toNat ≤ s'.ring.consumerPos.toNat := by
  cases move with
  | enter i data flags =>
    obtain ⟨_, rfl⟩ := step_enter hstep
    exact ⟨Nat.le_refl _, Nat.le_refl _⟩
  | act i =>
    obtain ⟨call, request, next, hcall, hwork, rfl⟩ := step_act hstep
    obtain ⟨advance, _⟩ := (consistent.writers i call hcall).act consistent.layout hwork rfl hbound
    obtain ⟨_, beside, _⟩ := advance.beside
    exact ⟨beside.producer_le, beside.consumer_le⟩
  | leave i =>
    obtain ⟨_, _, _, _, rfl⟩ := step_leave hstep
    exact ⟨Nat.le_refl _, Nat.le_refl _⟩
  | next =>
    obtain ⟨_, rfl⟩ := step_next hstep
    exact ⟨Nat.le_refl _, Nat.le_refl _⟩
  | read =>
    obtain ⟨_, _, _, _, hrequest, hperform⟩ := step_read_consistent consistent hstep
    have beside := (hrequest.advance consistent.layout consistent.reader hperform).beside
    exact ⟨beside.producer_le, beside.consumer_le⟩
  | deliver =>
    obtain ⟨_, _, rfl⟩ := step_deliver hstep
    exact ⟨Nat.le_refl _, Nat.le_refl _⟩

theorem run_consistent {size : UInt64} {ring : Ring} (hmake : make size = .ok ring)
    {moves : List (Move ι)} (hrun : (initial ι ring).run moves = some s)
    (hbound : framed s.log < 2 ^ 64) : ∃ reading, s.Consistent reading := by
  refine run_induction (motive := fun s => ∃ reading, s.Consistent reading) ?_ ?_ hrun hbound
  · exact ⟨_, initial_consistent hmake⟩
  · rintro t t' move ⟨reading, consistent⟩ hstep hbound
    exact step_consistent consistent hstep hbound

/-! ## Finding nothing -/

/-- The reader is about to look for a header where there is none: the oldest reservation that it
has not handed out is not complete, if there is one at all. -/
def LooksInVain (s : Traffic ι) : Prop :=
  (∃ next, s.reading = some (.request (.loadWord s.ring.consumerPos) next)) ∧
    ∀ r, s.log[s.delivered.length]? = some r → r.committed = false

/-- The only request that makes the reader return without a record. -/
theorem looksInVain_of_step (consistent : s.Consistent reading) (hstep : s.step .read = some s')
    (hnone : s'.reading = some (.done none)) : s.LooksInVain := by
  obtain ⟨reading', consistent', request, reply, hrequest, hperform⟩ :=
    step_read_consistent consistent hstep
  have hreturning := Reading.eq_returning_of_work (consistent'.reading_eq.trans hnone)
  subst hreturning
  have layout := consistent.layout
  have sound := consistent.reader
  have hreading := consistent.reading_eq
  cases hrequest with
  | missAgain header hheader =>
    obtain ⟨rfl, _⟩ := Prod.mk.inj hperform
    cases sound
    exact ⟨⟨_, hreading.symm⟩, fun r hk =>
      Reading.pending_of_not_isCommitted layout hheader hk⟩

theorem looksInVain_of_run {moves : List (Move ι)} (consistent : s.Consistent reading)
    (hrun : s.run moves = some s') (hbound : framed s'.log < 2 ^ 64)
    (hnone : s'.reading = some (.done none)) :
    (s.reading = some (.done none) ∧ .read ∉ moves) ∨
      ∃ before after t, moves = before ++ .read :: after ∧ .read ∉ after ∧
        s.run before = some t ∧ t.LooksInVain := by
  induction moves generalizing s reading with
  | nil =>
    cases hrun
    exact Or.inl ⟨hnone, List.not_mem_nil⟩
  | cons move moves ih =>
    obtain ⟨t, hstep, hrun'⟩ := (run_cons move moves).mp hrun
    have hmiddle := Nat.lt_of_le_of_lt (framed_le_run hrun') hbound
    obtain ⟨_, consistent'⟩ := step_consistent consistent hstep hmiddle
    rcases ih consistent' hrun' with ⟨ht, hmem⟩ | ⟨before, after, t', rfl, hmem, hbefore, hvain⟩
    · -- nothing happens to the reader from here on, so this move has to be its last request
      -- or one of the others
      have hother (hne : move ≠ .read) (hsame : t.reading = s.reading) :
          s.reading = some (.done none) ∧ .read ∉ move :: moves := by
        rw [List.mem_cons, not_or, ← hsame]
        exact ⟨ht, hne.symm, hmem⟩
      cases move with
      | enter i data flags =>
        obtain ⟨_, rfl⟩ := step_enter hstep
        exact Or.inl (hother (by simp) rfl)
      | act i =>
        obtain ⟨_, _, _, _, _, rfl⟩ := step_act hstep
        exact Or.inl (hother (by simp) rfl)
      | leave i =>
        obtain ⟨_, _, _, _, rfl⟩ := step_leave hstep
        exact Or.inl (hother (by simp) rfl)
      | next =>
        obtain ⟨_, rfl⟩ := step_next hstep
        cases ht
      | read =>
        exact Or.inr ⟨[], moves, s, rfl, hmem, rfl, looksInVain_of_step consistent hstep ht⟩
      | deliver =>
        obtain ⟨_, _, rfl⟩ := step_deliver hstep
        cases ht
    · exact Or.inr ⟨move :: before, after, t', rfl, hmem, (run_cons _ _).mpr ⟨t, hstep, hbefore⟩,
        hvain⟩

/-- However the requests of all calls interleave: what has been handed out is the beginning of what
was reserved for, in the order of the winning swaps; the reader has neither handed out nor passed
anything behind a reservation that is not complete; and it returns without a record only after its
last request was to look for a header that was not there. -/
theorem delivered_in_order {size : UInt64} {ring : Ring} (hmake : make size = .ok ring)
    {moves : List (Move ι)} (hrun : (initial ι ring).run moves = some s)
    (hbound : framed s.log < 2 ^ 64) :
    s.delivered <+: s.log.map Reservation.data ∧
      (∀ k r, s.log[k]? = some r → r.committed = false →
        s.delivered.length ≤ k ∧ s.ring.consumerPos.toNat ≤ r.pos.toNat) ∧
      (s.reading = some (.done none) →
        ∃ before after t, moves = before ++ .read :: after ∧ .read ∉ after ∧
          (initial ι ring).run before = some t ∧ t.LooksInVain) := by
  obtain ⟨reading, consistent⟩ := run_consistent hmake hrun hbound
  refine ⟨consistent.delivered, ?_, ?_⟩
  · intro k r hk hpending
    have hle := consistent.layout.le_of_pending hk hpending
    refine ⟨by omega, ?_⟩
    rw [consistent.layout.consumer_eq, consistent.layout.pos_eq k r hk]
    exact Nat.mul_le_mul_left 8 (start_le_start hle)
  · intro hnone
    rcases looksInVain_of_run (initial_consistent hmake) hrun hbound hnone with ⟨hstart, _⟩ | hvain
    · cases hstart
    · exact hvain

/-- The second of two writers is the first one to complete its record; the reader finds nothing,
and then, once the first one has caught up, both records in the order of their reservations. -/
theorem delivered_in_order_of_overtaking :
    ∃ ring s, make 32 = .ok ring ∧
      (initial Bool ring).run
        [.enter false [1] 0, .act false, .act false, .act false,
          .enter true [2] 0, .act true, .act true, .act true, .act true, .act true,
          .next, .read, .read, .read, .read, .deliver,
          .act false, .act false,
          .next, .read, .read, .read, .read, .read, .read, .deliver,
          .next, .read, .read, .read, .read, .read, .read, .deliver] = some s ∧
      framed s.log < 2 ^ 64 ∧ s.delivered = [[1], [2]] ∧
      s.delivered <+: s.log.map Reservation.data := by
  have hmake : make 32 = .ok { words := #[0, 0, 0, 0], byteSize := 32 } := rfl
  have hseen : ((initial Bool { words := #[0, 0, 0, 0], byteSize := 32 }).run
      [.enter false [1] 0, .act false, .act false, .act false,
        .enter true [2] 0, .act true, .act true, .act true, .act true, .act true,
        .next, .read, .read, .read, .read, .deliver,
        .act false, .act false,
        .next, .read, .read, .read, .read, .read, .read, .deliver,
        .next, .read, .read, .read, .read, .read, .read, .deliver]).map
      (fun s => (s.delivered, framed s.log)) = some ([[1], [2]], 32) := by
    decide +kernel
  obtain ⟨s, hrun, hs⟩ := Option.map_eq_some_iff.mp hseen
  obtain ⟨hdelivered, hframed⟩ := Prod.mk.inj hs
  have hbound : framed s.log < 2 ^ 64 := by
    rw [hframed]
    decide
  exact ⟨_, s, hmake, hrun, hbound, hdelivered, (delivered_in_order hmake hrun hbound).1⟩

end Traffic

end PortKnock.Ring
