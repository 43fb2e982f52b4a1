import PortKnock.Proofs.Ring.Delivery

/-!
# No wakeup is lost

A reader that has found nothing sleeps until it is woken.  Between its two looks
for a header it takes back all wakeups asked for so far, so a wakeup may well be
swallowed; and the writer of a record decides from a position of its own whether
to ask for one.  What carries the argument is that a sleeping reader is never
without a reason to be woken: if the record that is next is complete and wants a
wakeup, then either one has been asked for, or the call that wrote the record is
still about to ask (`Wakeful`).

The reader makes this true when it finds nothing, as the record is not complete
then.  Storing the header is what makes it complete, and leads the writer
straight to asking; the reader does not move while it sleeps, so looking for its
position first makes no difference.
-/

namespace PortKnock.Ring

/-- A record that is published with these flags wakes a reader that has caught up with it. -/
def WantsWakeup (flags : UInt64) : Prop :=
  flags &&& forceWakeup ≠ 0 ∨ flags &&& noWakeup = 0

/-- In these stages a call is about to ask for a wakeup, if the reader is at `pos`. -/
inductive Writing.Alerting (pos : UInt64) : Writing → Prop
  | deciding : Alerting pos (.deciding pos)
  | signalling : Alerting pos .signalling

theorem Writing.alerting_sealed {flags : UInt64} (hflags : WantsWakeup flags) (pos : UInt64) :
    (Writing.sealed flags pos).Alerting pos := by
  unfold Writing.sealed
  by_cases hforce : flags &&& forceWakeup = 0
  · have hquiet : flags &&& noWakeup = 0 := hflags.resolve_left (not_not_intro hforce)
    simp only [hforce, hquiet, bne_self_eq_false, beq_self_eq_true, Bool.false_eq_true, if_false,
      if_true]
    exact .deciding
  · simp only [bne_iff_ne.mpr hforce, if_true]
    exact .signalling

section Step

variable {ring ring' : Ring} {log : List Reservation} {passed : Nat} {gone : Nat → Prop}
variable {request : Request} {reply : request.Reply} {call : Call} {stage stage' : Writing}

/-- No writer takes a wakeup back. -/
theorem Writing.Step.ready_mono
    (step : Step ring.byteSize call.data call.flags stage request reply stage')
    (hperform : ring.perform request = (reply, ring')) (hready : ring.ready = true) :
    ring'.ready = true := by
  cases step with
  | win =>
    simp only [perform] at hperform
    split at hperform
    · cases hperform
      exact hready
    · cases hperform
  | lose =>
    simp only [perform] at hperform
    split at hperform
    · cases hperform
    · cases hperform
      exact hready
  | signal =>
    cases hperform
    rfl
  | _ =>
    cases hperform
    exact hready

/-- A call that is about to ask for a wakeup asks, or gets closer to it. -/
theorem Writing.Step.alerting
    (step : Step ring.byteSize call.data call.flags stage request reply stage')
    (log : List Reservation) (halerting : stage.Alerting ring.consumerPos)
    (hperform : ring.perform request = (reply, ring')) :
    ring'.ready = true ∨
      stage'.Alerting ring.consumerPos ∧ (call.record log request reply).2 = call.place := by
  cases halerting with
  | deciding =>
    cases step with
    | caughtUp => exact Or.inr ⟨.signalling, rfl⟩
    | behind htail =>
      cases hperform
      exact absurd rfl htail
  | signalling =>
    cases step
    cases hperform
    exact Or.inl rfl

/-- A record is completed by the call that has won its place, which decides about the wakeup
next. -/
theorem Writing.Step.complete_or
    (step : Step ring.byteSize call.data call.flags stage request reply stage')
    (layout : Layout ring log passed gone)
    (sound : stage.Sound ring log call.data call.flags call.place)
    (hperform : ring.perform request = (reply, ring')) {n : Nat} {r : Reservation}
    (hn : (call.record log request reply).1[n]? = some r) (hcommitted : r.committed = true) :
    log[n]? = some r ∨
      (call.record log request reply).2 = some n ∧ r.flags = call.flags ∧
        stage' = sealed call.flags r.pos := by
  obtain ⟨data, flags, work, place⟩ := call
  cases step with
  | win =>
    refine Or.inl ?_
    simp only [Call.record] at hn
    rcases getElem?_concat_cases hn with hold | ⟨_, rfl⟩
    · exact hold
    · cases hcommitted
  | copy =>
    cases sound with
    | @copying k _ _ done _ hk hsplit hnext hcopied =>
      rw [record_copy layout rfl hk (o := 1 + done.length) (by omega) (by omega)] at hn
      exact Or.inl hn
  | complete =>
    cases sound with
    | @copying k _ _ done _ hk hsplit hnext hcopied =>
      rw [record_complete rfl hk] at hn ⊢
      rcases getElem?_commitAt_cases hk hn with ⟨rfl, rfl⟩ | ⟨_, hold⟩
      · exact Or.inr ⟨rfl, rfl, rfl⟩
      · exact Or.inl hold
  | _ => exact Or.inl hn

end Step

namespace Traffic

variable {ι : Type} [DecidableEq ι] {s s' : Traffic ι} {reading : Reading} {i : ι}

/-- The reader has found nothing and has not looked since. -/
def Sleeping (s : Traffic ι) : Prop :=
  s.reading = none ∧ (s.last = none ∨ s.last = some none) ∨ s.reading = some (.done none)

/-- A wakeup has been asked for, or the call that has won place `n` is about to ask for one if the
reader is at `pos`. -/
def Alerted (s : Traffic ι) (n : Nat) (pos : UInt64) : Prop :=
  s.ring.ready = true ∨ ∃ i call stage, s.calls i = some call ∧ call.place = some n ∧
    call.work = Writing.work s.ring.byteSize call.data call.flags stage ∧ stage.Alerting pos

/-- A sleeping reader that should be woken is going to be. -/
def Wakeful (s : Traffic ι) : Prop :=
  s.Sleeping → ∀ r, s.log[s.delivered.length]? = some r → r.committed = true →
    WantsWakeup r.flags → s.Alerted s.delivered.length r.pos

omit [DecidableEq ι] in
theorem initial_wakeful (ring : Ring) : (initial ι ring).Wakeful := by
  intro _ r hr
  cases hr

omit [DecidableEq ι] in
/-- A sleeping reader stands at the oldest record that it has not handed out. -/
theorem Consistent.consumerPos_of_sleeping (consistent : s.Consistent reading)
    (hsleeping : s.Sleeping) {r : Reservation} (hr : s.log[s.delivered.length]? = some r) :
    s.ring.consumerPos = r.pos := by
  have hahead : reading.ahead = 0 := by
    rcases hsleeping with ⟨hidle, _⟩ | hnone
    · rw [Reading.eq_idle_of_work (consistent.reading_eq.trans hidle)]
      rfl
    · rw [Reading.eq_returning_of_work (consistent.reading_eq.trans hnone)]
      rfl
  have hconsumer := consistent.layout.consumer_eq
  rw [hahead, Nat.add_zero] at hconsumer
  rw [← UInt64.toNat_inj, hconsumer, consistent.layout.pos_eq _ r hr]

/-- Nobody forgets about a wakeup while the reader sleeps. -/
theorem Alerted.act {n : Nat} (consistent : s.Consistent reading)
    (alerted : s.Alerted n s.ring.consumerPos) (hstep : s.step (.act i) = some s') :
    s'.Alerted n s.ring.consumerPos := by
  obtain ⟨call, request, next, hcall, hwork, rfl⟩ := step_act hstep
  have hperform : s.ring.perform request =
      ((s.ring.perform request).1, (s.ring.perform request).2) := rfl
  have hbyteSize := byteSize_perform s.ring request
  rcases alerted with hready | ⟨j, call', stage, hcall', hplace, hwork', halerting⟩
  · obtain ⟨stage, hstage, _⟩ := consistent.writers i call hcall
    obtain ⟨_, hrequest, _⟩ :=
      Writing.step_of_work (hstage.symm.trans hwork) (s.ring.perform request).1
    exact Or.inl (hrequest.ready_mono hperform hready)
  -- either this call is the one that is about to ask, or that one stays where it is
  by_cases hji : j = i
  · subst hji
    rw [hcall, Option.some.injEq] at hcall'
    subst hcall'
    obtain ⟨stage', hrequest, hnext⟩ :=
      Writing.step_of_work (hwork'.symm.trans hwork) (s.ring.perform request).1
    rcases hrequest.alerting s.log halerting hperform with hready | ⟨halerting', hsame⟩
    · exact Or.inl hready
    · refine Or.inr ⟨j, _, stage', Function.update_self _ _ _, hsame.trans hplace, ?_, halerting'⟩
      rw [Traffic.act, hbyteSize]
      exact hnext
  · refine Or.inr ⟨j, call', stage, ?_, hplace, ?_, halerting⟩
    · exact (Function.update_of_ne hji _ _).trans hcall'
    · rw [hwork', Traffic.act, hbyteSize]

theorem step_act_wakeful (consistent : s.Consistent reading) (wakeful : s.Wakeful)
    (hstep : s.step (.act i) = some s') (hbound : framed s'.log < 2 ^ 64) : s'.Wakeful := by
  have consistent' := step_act_consistent consistent hstep hbound
  have hact := hstep
  obtain ⟨call, request, next, hcall, hwork, rfl⟩ := step_act hstep
  intro hsleeping r hr hcommitted hwants
  have hperform : s.ring.perform request =
      ((s.ring.perform request).1, (s.ring.perform request).2) := rfl
  obtain ⟨stage, hstage, sound⟩ := consistent.writers i call hcall
  obtain ⟨stage', hrequest, hnext⟩ :=
    Writing.step_of_work (hstage.symm.trans hwork) (s.ring.perform request).1
  rcases hrequest.complete_or consistent.layout sound hperform hr hcommitted with
    hold | ⟨hplace, hflags, hsealed⟩
  · -- the record was complete before, so there was a reason already
    have hpos := consistent.consumerPos_of_sleeping hsleeping hold
    have alerted := wakeful hsleeping r hold hcommitted hwants
    rw [← hpos] at alerted ⊢
    exact alerted.act consistent hact
  · -- the record is complete from now on, and its writer decides about the wakeup next
    refine Or.inr ⟨i, _, stage', Function.update_self _ _ _, hplace, ?_, ?_⟩
    · rw [Traffic.act, byteSize_perform]
      exact hnext
    · rw [hflags] at hwants
      rw [hsealed]
      exact Writing.alerting_sealed hwants r.pos

/-- Every move leaves a sleeping reader with a reason to be woken if it should be. -/
theorem step_wakeful {move : Move ι} (consistent : s.Consistent reading) (wakeful : s.Wakeful)
    (hstep : s.step move = some s') (hbound : framed s'.log < 2 ^ 64) : s'.Wakeful := by
  cases move with
  | enter i data flags =>
    obtain ⟨hfree, rfl⟩ := step_enter hstep
    intro hsleeping r hr hcommitted hwants
    -- who is about to ask for the wakeup is in a call, so it is not the one who enters
    refine (wakeful hsleeping r hr hcommitted hwants).imp_right ?_
    rintro ⟨j, call, stage, hcall, hrest⟩
    have hji : j ≠ i := by
      rintro rfl
      rw [hfree] at hcall
      cases hcall
    exact ⟨j, call, stage, (Function.update_of_ne hji _ _).trans hcall, hrest⟩
  | act i => exact step_act_wakeful consistent wakeful hstep hbound
  | leave i =>
    obtain ⟨call, result, hcall, hdone, rfl⟩ := step_leave hstep
    intro hsleeping r hr hcommitted hwants
    refine (wakeful hsleeping r hr hcommitted hwants).imp_right ?_
    rintro ⟨j, call', stage, hcall', hplace, hwork, halerting⟩
    have hji : j ≠ i := by
      rintro rfl
      -- a call that is about to ask for a wakeup does not return
      rw [hcall, Option.some.injEq] at hcall'
      rw [← hcall', hdone] at hwork
      cases halerting <;> cases hwork
    exact ⟨j, call', stage, (Function.update_of_ne hji _ _).trans hcall', hplace, hwork, halerting⟩
  | next =>
    -- the reader is awake from here until it finds nothing
    obtain ⟨_, rfl⟩ := step_next hstep
    rintro (⟨hidle, _⟩ | hnone)
    · cases hidle
    · cases hnone
  | read =>
    have hread := hstep
    obtain ⟨request, next, _, rfl⟩ := step_read hstep
    rintro (⟨hidle, _⟩ | hnone) r hr hcommitted
    · cases hidle
    · -- the reader has just found nothing, so there is nothing to be woken for
      have hpending := (looksInVain_of_step consistent hread hnone).2 r hr
      rw [hcommitted] at hpending
      cases hpending
  | deliver =>
    obtain ⟨answer, hanswer, rfl⟩ := step_deliver hstep
    rintro (⟨_, hlast | hlast⟩ | hnone)
    · cases hlast
    · -- it slept before it returned with nothing
      cases hlast
      simp only [Option.toList_none, List.append_nil]
      exact wakeful (Or.inr hanswer)
    · cases hnone

theorem run_wakeful {size : UInt64} {ring : Ring} (hmake : make size = .ok ring)
    {moves : List (Move ι)} (hrun : (initial ι ring).run moves = some s)
    (hbound : framed s.log < 2 ^ 64) : s.Wakeful := by
  have hboth : (∃ reading, s.Consistent reading) ∧ s.Wakeful := by
    refine run_induction (motive := fun s => (∃ reading, s.Consistent reading) ∧ s.Wakeful)
      ⟨⟨_, initial_consistent hmake⟩, initial_wakeful ring⟩ ?_ hrun hbound
    rintro t t' move ⟨⟨reading, consistent⟩, wakeful⟩ hstep hbound
    exact ⟨step_consistent consistent hstep hbound, step_wakeful consistent wakeful hstep hbound⟩
  exact hboth.2

/-- A reader is never left asleep in front of a record: if it is in no call, has found nothing at
its last call or has never called, and the record at its position is complete, wants a wakeup, and
has been written by a call that has returned, then a wakeup has been asked for and not been taken
back.  A position names one record only as long as the positions have not run over. -/
theorem ready_of_complete {size : UInt64} {ring : Ring} (hmake : make size = .ok ring)
    {moves : List (Move ι)} (hrun : (initial ι ring).run moves = some s)
    (hbound : framed s.log < 2 ^ 64) (hidle : s.reading = none)
    (hlast : s.last = none ∨ s.last = some none) {k : Nat} {r : Reservation}
    (hk : s.log[k]? = some r) (hpos : r.pos = s.ring.consumerPos) (hcommitted : r.committed = true)
    (hreturned : ∀ i call, s.calls i = some call → call.place ≠ some k)
    (hflags : r.flags &&& forceWakeup ≠ 0 ∨ r.flags &&& noWakeup = 0) : s.ring.ready = true := by
  obtain ⟨reading, consistent⟩ := run_consistent hmake hrun hbound
  have wakeful := run_wakeful hmake hrun hbound
  have hreading := Reading.eq_idle_of_work (consistent.reading_eq.trans hidle)
  subst hreading
  have layout : Layout s.ring s.log s.delivered.length fun _ => False := consistent.layout
  have hnext : k = s.delivered.length := by
    have hstart : start s.log k = start s.log s.delivered.length := by
      have hrecord := layout.pos_eq k r hk
      have hconsumer := layout.consumer_eq
      rw [hpos] at hrecord
      omega
    have hlt : k < s.log.length := (List.getElem?_eq_some_iff.mp hk).1
    exact eq_of_start_eq_start (Nat.le_of_lt hlt) layout.passed_le hstart
  subst hnext
  rcases wakeful (Or.inl ⟨hidle, hlast⟩) r hk hcommitted hflags with
    hready | ⟨i, call, _, hcall, hplace, _⟩
  · exact hready
  · exact absurd hplace (hreturned i call hcall)

/-- The reader has found nothing before the one writer calls, so the wakeup is still there. -/
theorem ready_of_complete_behind_the_reader :
    ∃ ring s, make 16 = .ok ring ∧
      (initial Unit ring).run
        [.next, .read, .read, .read, .read, .deliver,
          .enter () [1] 0, .act (), .act (), .act (), .act (), .act (), .act (), .act (),
          .leave ()] = some s ∧
      s.last = some none ∧ s.log = [⟨[1], 0, 0, true⟩] ∧ s.ring.ready = true := by
  have hmake : make 16 = .ok { words := #[0, 0], byteSize := 16 } := rfl
  have hseen : ((initial Unit { words := #[0, 0], byteSize := 16 }).run
      [.next, .read, .read, .read, .read, .deliver,
        .enter () [1] 0, .act (), .act (), .act (), .act (), .act (), .act (), .act (),
        .leave ()]).map
      (fun s => (s.reading.isNone, s.last, s.log, s.ring.consumerPos, (s.calls ()).isNone)) =
        some (true, some none, [⟨[1], 0, 0, true⟩], 0, true) := by
    decide +kernel
  obtain ⟨s, hrun, hs⟩ := Option.map_eq_some_iff.mp hseen
  simp only [Prod.mk.injEq, Option.isNone_iff_eq_none] at hs
  obtain ⟨hidle, hlast, hlog, hconsumer, hcalls⟩ := hs
  have hbound : framed s.log < 2 ^ 64 := by
    rw [hlog]
    decide
  have hready : s.ring.ready = true := by
    refine ready_of_complete hmake hrun hbound hidle (Or.inr hlast) (k := 0)
      (r := ⟨[1], 0, 0, true⟩) ?_ hconsumer.symm rfl ?_ (Or.inr rfl)
    · rw [hlog]
      rfl
    · intro i call hcall
      rw [hcalls] at hcall
      cases hcall
  exact ⟨_, s, hmake, hrun, hlast, hlog, hready⟩

end Traffic

end PortKnock.Ring
