import Mathlib.Algebra.BigOperators.Fin
import PortKnock.Proofs.Knock
import PortKnock.Proofs.Pipeline
import PortKnock.Proofs.Ring.Contention

/-!
# Frames inspected at the same time

Any number of frames are inspected at the same time, one call for each of them
and all with the same ring as the sink, while the reader may empty the ring
meanwhile.  A schedule gives the turns to the parties in any order; a turn is
one atomic action on the ring.

If there are no more knocks than attempts to reserve, and room for all of them,
no knock is lost: nobody is held up by anybody else for longer than a fixed
number of turns, every frame passes, no sink refuses, and the records that come
out are those of the knocks.

## Strategy

What an inspection does on the ring is a call of `output`, so the whole is
mirrored by a `Traffic` in which every knock is a call that has been made at the
beginning (`Mirror`).  Such a traffic is `Orderly`, turn after turn.
-/

namespace PortKnock

open PortKnock.Ring

/-! ## Inspections -/

/-- What publishing was answered with, in the order of publishing. -/
abbrev Notes := List (Except Refusal Unit)

/-- A ring as a sink that takes notes of its answers. -/
def notingSink (byteSize : UInt64) : Sink (StateT Notes Access) where
  publish knock flags := do
    let result ← (Ring.sink byteSize).publish knock flags
    modify fun notes => notes ++ [result]
    return result

/-- The inspection of a frame, which ends in its verdict and the notes of the sink. -/
def inspection (filter : Filter) (byteSize : UInt64) (frame : List UInt8) :
    Access (Verdict × Notes) :=
  (inspect filter (notingSink byteSize) frame).run []

/-- Frames that are inspected at the same time, at one moment. -/
structure Inspections (n : Nat) where
  ring : Ring
  /-- What is left to do for each of the frames. -/
  calls : Fin n → Access (Verdict × Notes)
  /-- What is left of the reader's call, if it is in one. -/
  reading : Option (Access (Option (List UInt8)))
  /-- All records that the reader has handed out. -/
  obtained : List (List UInt8)

/-- Whose turn it is. -/
inductive Turn (n : Nat)
  | inspector (i : Fin n)
  | reader
  deriving DecidableEq, Repr

namespace Inspections

/-- Nobody has done anything yet. -/
def start (filter : Filter) (ring : Ring) (frames : List (List UInt8)) :
    Inspections frames.length where
  ring
  calls i := inspection filter ring.byteSize frames[i]
  reading := none
  obtained := []

variable {n : Nat}

/-- The moment after a turn.  Whoever has nothing left to do lets its turn pass; the reader calls
again and again. -/
def turn (c : Inspections n) : Turn n → Inspections n
  | .inspector i =>
    { c with
      ring := ((c.calls i).step c.ring).2
      calls := Function.update c.calls i ((c.calls i).step c.ring).1 }
  | .reader =>
    match c.reading with
    | none => { c with reading := some Ring.next }
    | some (.request request next) =>
      { c with
        ring := (c.ring.perform request).2
        reading := some (next (c.ring.perform request).1) }
    | some (.done answer) =>
      { c with reading := none, obtained := c.obtained ++ answer.toList }

def run (c : Inspections n) (schedule : List (Turn n)) : Inspections n :=
  schedule.foldl turn c

/-- The records that the reader still hands out when it goes on by itself, until there is none. -/
def rest (c : Inspections n) : List (List UInt8) :=
  match c.reading with
  | none => c.ring.drain.1
  | some work => (work.run c.ring).1.toList ++ (work.run c.ring).2.drain.1

end Inspections

/-! ## Notes make no difference -/

theorem bind_assoc_access {α β γ : Type} (work : Access α) (f : α → Access β) (g : β → Access γ) :
    (work >>= f) >>= g = work >>= fun a => f a >>= g := by
  show (work.bind f).bind g = work.bind fun a => (f a).bind g
  induction work with
  | done result => rfl
  | request q next ih => exact congrArg (Access.request q) (funext ih)

variable {filter : Filter} {frame : List UInt8} {byteSize : UInt64}

theorem inspection_of_none (hclassify : classify filter frame = none) :
    inspection filter byteSize frame = pure (.pass, []) := by
  rw [inspection, inspect, hclassify]
  rfl

theorem run_liftM (work : Access (Except Refusal Unit)) (notes : Notes) :
    (liftM work : StateT Notes Access (Except Refusal Unit)).run notes =
      work >>= fun result => pure (result, notes) :=
  rfl

theorem inspection_of_some {knock : Knock} (hclassify : classify filter frame = some knock) :
    inspection filter byteSize frame =
      output byteSize knock.encode forceWakeup >>= fun result => pure (.pass, [result]) := by
  rw [inspection, inspect, hclassify]
  simp only [notingSink, sink_publish, StateT.run_bind, StateT.run_pure, StateT.run_modify,
    run_liftM]
  generalize output byteSize knock.encode forceWakeup = work
  rw [bind_assoc_access, bind_assoc_access]
  rfl

/-- Taking notes makes no difference to an inspection. -/
theorem fst_inspection (filter : Filter) (byteSize : UInt64) (frame : List UInt8) :
    Prod.fst <$> inspection filter byteSize frame = inspect filter (Ring.sink byteSize) frame := by
  show (inspection filter byteSize frame >>= fun p => pure p.1) = _
  rw [inspect]
  cases hclassify : classify filter frame with
  | none =>
    rw [inspection_of_none hclassify]
    rfl
  | some knock =>
    rw [inspection_of_some hclassify, bind_assoc_access]
    simp only [sink_publish]
    rfl

/-! ## The traffic behind it -/

/-- What the inspections publish: the records of the frames that are knocks. -/
def wanted (filter : Filter) (frames : List (List UInt8)) (i : Fin frames.length) :
    Option (List UInt8) :=
  (classify filter frames[i]).map Knock.encode

namespace Inspections

variable {n : Nat} {c : Inspections n} {s : Traffic (Fin n)} {reading : Reading}
  {wanted : Fin n → Option (List UInt8)} {budget : Fin n → Nat}

/-- Inspections and calls of `output` that do the same to the same ring. -/
structure Mirror (c : Inspections n) (s : Traffic (Fin n)) : Prop where
  ring_eq : s.ring = c.ring
  reading_eq : s.reading = c.reading
  obtained_eq : s.delivered = c.obtained
  call_eq : ∀ i, c.calls i = (s.calls i).elim (pure (.pass, [])) fun call =>
    call.work >>= fun result => pure (.pass, [result])

theorem byteSize_turn (c : Inspections n) (t : Turn n) :
    (c.turn t).ring.byteSize = c.ring.byteSize := by
  cases t with
  | inspector i =>
    rw [turn]
    cases c.calls i with
    | done result => rfl
    | request q next => exact byteSize_perform c.ring q
  | reader =>
    simp only [turn]
    split
    · rfl
    · exact byteSize_perform c.ring _
    · rfl

theorem turn_of_done {i : Fin n} {result : Verdict × Notes} (hdone : c.calls i = .done result) :
    c.turn (.inspector i) = c := by
  simp only [turn, hdone, Access.step]
  rw [← hdone, Function.update_eq_self]

/-- An inspector's turn is a request of its call, if the call has not returned. -/
theorem Mirror.turn_inspector (mirror : Mirror c s) (orderly : s.Orderly wanted budget reading)
    (affordable : Traffic.Affordable c.ring.byteSize.toNat wanted) (i : Fin n) :
    ∃ s', Mirror (c.turn (.inspector i)) s' ∧
      s'.Orderly wanted (Function.update budget i (budget i - 1)) reading := by
  have hself := mirror.call_eq i
  cases hcall : s.calls i with
  | none =>
    -- the frame is no knock, so its inspection has been over from the start
    rw [hcall] at hself
    refine ⟨s, ?_, orderly.of_turn_passed (by simp [hcall])⟩
    rw [turn_of_done hself]
    exact mirror
  | some call =>
    rw [hcall] at hself
    cases hwork : call.work with
    | done result =>
      simp only [Option.elim_some, hwork] at hself
      refine ⟨s, ?_, orderly.of_turn_passed fun call' hcall' => ⟨result, ?_⟩⟩
      · rw [turn_of_done hself]
        exact mirror
      · rw [hcall, Option.some.injEq] at hcall'
        rw [← hcall', hwork]
    | request q next =>
      replace hself : c.calls i =
          .request q fun reply => next reply >>= fun result => pure (.pass, [result]) := by
        rw [hself, Option.elim_some, hwork]
        rfl
      have hstep : s.step (.act i) = some (s.act i call q next) := by
        simp only [Traffic.step, hcall, hwork]
      rw [← mirror.ring_eq] at affordable
      -- the ring answers both of them the same
      refine ⟨s.act i call q next, ⟨?_, mirror.reading_eq, mirror.obtained_eq, fun j => ?_⟩,
        Traffic.step_act_orderly orderly affordable hstep⟩
      · simp only [turn, hself, Access.step, Traffic.act, mirror.ring_eq]
      · by_cases hji : j = i
        · subst hji
          simp only [turn, hself, Access.step, Traffic.act, Function.update_self, mirror.ring_eq,
            Option.elim_some]
        · simp only [turn, Traffic.act, Function.update_of_ne hji]
          exact mirror.call_eq j

/-- The reader's turn is its next move. -/
theorem Mirror.turn_reader (mirror : Mirror c s) (orderly : s.Orderly wanted budget reading) :
    ∃ s' reading', Mirror (c.turn .reader) s' ∧ s'.Orderly wanted budget reading' := by
  have hreading := mirror.reading_eq
  cases hwork : c.reading with
  | none =>
    rw [hwork] at hreading
    have hstep : s.step .next = some { s with reading := some Ring.next } := by
      simp only [Traffic.step, hreading]
    refine ⟨_, _, ?_, Traffic.step_next_orderly orderly hstep⟩
    simp only [turn, hwork]
    exact ⟨mirror.ring_eq, rfl, mirror.obtained_eq, mirror.call_eq⟩
  | some work =>
    rw [hwork] at hreading
    cases work with
    | done answer =>
      have hstep : s.step .deliver = some { s with
          reading := none
          delivered := s.delivered ++ answer.toList
          last := some answer } := by
        simp only [Traffic.step, hreading]
      refine ⟨_, _, ?_, Traffic.step_deliver_orderly orderly hstep⟩
      simp only [turn, hwork]
      exact ⟨mirror.ring_eq, rfl, congrArg (· ++ answer.toList) mirror.obtained_eq, mirror.call_eq⟩
    | request q next =>
      have hstep : s.step .read = some { s with
          ring := (s.ring.perform q).2
          reading := some (next (s.ring.perform q).1) } := by
        simp only [Traffic.step, hreading]
      obtain ⟨reading', orderly'⟩ := Traffic.step_read_orderly orderly hstep
      refine ⟨_, reading', ?_, orderly'⟩
      simp only [turn, hwork]
      exact ⟨by rw [mirror.ring_eq], by rw [mirror.ring_eq], mirror.obtained_eq, mirror.call_eq⟩

/-- After any number of turns, each of the calls has used up as many requests as it had turns. -/
theorem Mirror.run (mirror : Mirror c s) (orderly : s.Orderly wanted budget reading)
    (affordable : Traffic.Affordable c.ring.byteSize.toNat wanted) (schedule : List (Turn n)) :
    ∃ s' reading', Mirror (c.run schedule) s' ∧
      s'.Orderly wanted (fun i => budget i - schedule.count (.inspector i)) reading' := by
  induction schedule generalizing c s budget reading with
  | nil => exact ⟨s, reading, mirror, orderly⟩
  | cons t schedule ih =>
    rw [← byteSize_turn c t] at affordable
    cases t with
    | inspector i =>
      obtain ⟨s₁, mirror₁, orderly₁⟩ :=
        mirror.turn_inspector orderly (byteSize_turn c _ ▸ affordable) i
      obtain ⟨s', reading', mirror', orderly'⟩ := ih mirror₁ orderly₁ affordable
      refine ⟨s', reading', mirror', ?_⟩
      -- the turn that is taken now and the ones that follow are all turns of the schedule
      have hbudget : (fun j => Function.update budget i (budget i - 1) j -
          schedule.count (.inspector j)) =
          fun j => budget j - (Turn.inspector i :: schedule).count (.inspector j) := by
        funext j
        by_cases hji : j = i
        · subst hji
          rw [Function.update_self, List.count_cons_self]
          omega
        · rw [Function.update_of_ne hji, List.count_cons_of_ne]
          simpa using Ne.symm hji
      rw [← hbudget]
      exact orderly'
    | reader =>
      obtain ⟨s₁, reading₁, mirror₁, orderly₁⟩ := mirror.turn_reader orderly
      obtain ⟨s', reading', mirror', orderly'⟩ := ih mirror₁ orderly₁ affordable
      refine ⟨s', reading', mirror', ?_⟩
      simpa using orderly'

theorem mirror_start (filter : Filter) (ring : Ring) (frames : List (List UInt8)) :
    Mirror (start filter ring frames)
      (Traffic.started ring (PortKnock.wanted filter frames) forceWakeup) := by
  refine ⟨rfl, rfl, rfl, fun i => ?_⟩
  show inspection filter ring.byteSize frames[i] = _
  simp only [Traffic.started, PortKnock.wanted]
  cases hclassify : classify filter frames[i] with
  | none =>
    rw [inspection_of_none hclassify]
    rfl
  | some knock =>
    rw [inspection_of_some hclassify]
    simp only [Option.map_some, Option.elim_some]

/-- An inspector that has used up its turns has returned. -/
theorem Mirror.exists_done (mirror : Mirror c s) (orderly : s.Orderly wanted budget reading)
    {i : Fin n} (hbudget : budget i = 0) : ∃ result, c.calls i = .done result := by
  have hself := mirror.call_eq i
  cases hcall : s.calls i with
  | none =>
    rw [hcall] at hself
    exact ⟨_, hself⟩
  | some call =>
    obtain ⟨answer, hanswer⟩ := orderly.done_of_budget hcall hbudget
    rw [hcall, Option.elim_some, hanswer] at hself
    exact ⟨_, hself⟩

/-- Whoever has returned lets its frame pass, and has published what it wanted to. -/
theorem Mirror.eq_of_done (mirror : Mirror c s) (orderly : s.Orderly wanted budget reading)
    {i : Fin n} {result : Verdict × Notes} (hdone : c.calls i = .done result) :
    result = (.pass, (wanted i).toList.map fun _ => .ok ()) := by
  rw [mirror.call_eq i] at hdone
  rw [← orderly.wanted_eq i]
  cases hcall : s.calls i with
  | none =>
    rw [hcall] at hdone
    cases hdone
    rfl
  | some call =>
    rw [hcall, Option.elim_some] at hdone
    cases hwork : call.work with
    | done answer =>
      obtain ⟨rfl, -⟩ := orderly.of_done hcall hwork
      rw [hwork] at hdone
      cases hdone
      rfl
    | request q next =>
      rw [hwork] at hdone
      cases hdone

/-- What the reader has handed out and what it still hands out are all records, once all calls have
returned. -/
theorem Mirror.obtained_append_rest (mirror : Mirror c s)
    (orderly : s.Orderly wanted budget reading)
    (hdone : ∀ i, ∃ result, c.calls i = .done result) :
    ((c.obtained ++ c.rest : List (List UInt8)) : Multiset (List UInt8)) =
      Traffic.wants wanted := by
  have hreturned : ∀ i call, s.calls i = some call → ∃ result, call.work = .done result := by
    intro i call hcall
    obtain ⟨result, hresult⟩ := hdone i
    rw [mirror.call_eq i, hcall, Option.elim_some] at hresult
    cases hwork : call.work with
    | done result => exact ⟨result, rfl⟩
    | request q next =>
      rw [hwork] at hresult
      cases hresult
  obtain ⟨hpayloads, hcommitted⟩ := orderly.all_done hreturned
  rw [← hpayloads, payloads, rest, ← mirror.ring_eq, ← mirror.obtained_eq, ← mirror.reading_eq]
  -- the reader may be in the middle of a call, which it first brings to its end
  cases hreading : s.reading with
  | none =>
    obtain rfl : reading = .idle :=
      Reading.eq_idle_of_work (orderly.consistent.reading_eq.trans hreading)
    rw [orderly.consistent.delivered_append_drain hcommitted]
  | some work =>
    obtain ⟨s', consistent', hlog, hring, hdelivered⟩ :=
      orderly.consistent.finish_reading hreading
    rw [← hlog] at hcommitted ⊢
    rw [← consistent'.delivered_append_drain hcommitted, hring, hdelivered, List.append_assoc]

end Inspections

/-! ## No knock is lost -/

theorem wants_wanted (filter : Filter) (frames : List (List UInt8)) :
    Traffic.wants (wanted filter frames) =
      ((frames.filterMap (classify filter)).map Knock.encode : List (List UInt8)) := by
  induction frames with
  | nil => rfl
  | cons frame frames ih =>
    have hsplit : Traffic.wants (wanted filter (frame :: frames)) =
        ((classify filter frame).map Knock.encode).elim 0 (fun data => {data}) +
          Traffic.wants (wanted filter frames) :=
      Fin.sum_univ_succ _
    rw [hsplit, ih]
    cases hclassify : classify filter frame with
    | none =>
      rw [List.filterMap_cons_none hclassify]
      exact zero_add _
    | some knock =>
      rw [List.filterMap_cons_some hclassify]
      rfl

theorem affordable_wanted {size : Nat} {frames : List (List UInt8)}
    (hattempts : (frames.filterMap (classify filter)).length ≤ reserveAttempts)
    (hroom : 16 * (frames.filterMap (classify filter)).length ≤ size) :
    Traffic.Affordable size (wanted filter frames) := by
  constructor
  · rw [wants_wanted, Multiset.coe_card, List.length_map]
    exact hattempts
  · rw [wants_wanted, Traffic.load, Multiset.map_coe, Multiset.sum_coe]
    exact Nat.le_trans (Nat.le_of_eq (load_encode _)) hroom

/-- Turns after which an inspection has returned. -/
def turnsOfInspection : Nat := 2 * reserveAttempts + 5

theorem requestsFor_encode (knock : Knock) :
    Traffic.requestsFor knock.encode = turnsOfInspection := by
  rw [Traffic.requestsFor, length_payloadWords, Knock.length_encode]
  rfl

theorem started_wanted_orderly {size : UInt64} {ring : Ring} (hmake : Ring.make size = .ok ring)
    (filter : Filter) (frames : List (List UInt8)) :
    (Traffic.started ring (wanted filter frames) forceWakeup).Orderly (wanted filter frames)
      (fun _ => turnsOfInspection) .idle := by
  refine Traffic.started_orderly hmake forceWakeup ?_ ?_
  · intro i data hdata
    obtain ⟨knock, _, rfl⟩ := Option.map_eq_some_iff.mp hdata
    exact admissible_encode (Layout.of_make hmake).wellFormed knock
  · intro i data hdata
    obtain ⟨knock, _, rfl⟩ := Option.map_eq_some_iff.mp hdata
    exact Nat.le_of_eq (requestsFor_encode knock)

/-- If there are no more knocks than attempts to reserve, and room for all of them, no order of the
turns holds anybody up, lets a publication fail or loses a knock: what has come out of the ring once
everybody has returned and the ring is drained are the records of the knocks, each as often as it
was seen. -/
theorem inspect_concurrently {size : UInt64} {ring : Ring} (hmake : Ring.make size = .ok ring)
    (filter : Filter) (frames : List (List UInt8))
    (hattempts : (frames.filterMap (classify filter)).length ≤ reserveAttempts)
    (hroom : 16 * (frames.filterMap (classify filter)).length ≤ size.toNat)
    (schedule : List (Turn frames.length)) :
    let c := (Inspections.start filter ring frames).run schedule
    (∀ i, turnsOfInspection ≤ schedule.count (.inspector i) → ∃ result, c.calls i = .done result) ∧
      (∀ i result, c.calls i = .done result →
        result = (.pass, (classify filter frames[i]).toList.map fun _ => .ok ())) ∧
      ((∀ i, ∃ result, c.calls i = .done result) →
        (c.obtained ++ c.rest).Perm ((frames.filterMap (classify filter)).map Knock.encode)) := by
  intro c
  obtain ⟨_, _, hring⟩ := make_eq_ok hmake
  have hbyteSize : ring.byteSize = size := by rw [hring]
  rw [← hbyteSize] at hroom
  obtain ⟨s, reading, mirror, orderly⟩ := (Inspections.mirror_start filter ring frames).run
    (started_wanted_orderly hmake filter frames) (affordable_wanted hattempts hroom) schedule
  refine ⟨fun i hturns => ?_, fun i result hresult => ?_, fun hdone => ?_⟩
  · exact mirror.exists_done orderly (Nat.sub_eq_zero_of_le hturns)
  · rw [mirror.eq_of_done orderly hresult, wanted, Option.toList_map, List.map_map]
    rfl
  · rw [← Multiset.coe_eq_coe, mirror.obtained_append_rest orderly hdone, wants_wanted]

/-- Two knocks and another frame that are inspected at the same time, step by step, while the
reader is looking. -/
theorem inspect_concurrently_in_turns :
    let knock (host : UInt8) := List.replicate 12 0 ++ [8, 0] ++ List.replicate 9 0 ++
      [17, 0, 0, 10, 0, 0, host] ++ List.replicate 6 0 ++ [0xf2, 0xf9, 0, 0, 0, 0]
    let frames := [knock 1, List.replicate 42 0, knock 2]
    let schedule : List (Turn 3) :=
      (List.replicate turnsOfInspection [.inspector 0, .inspector 2, .reader, .inspector 1]).flatten
    ∃ ring, Ring.make 32 = .ok ring ∧
      let c := (Inspections.start {} ring frames).run schedule
      c.calls 0 = .done (.pass, [.ok ()]) ∧ c.calls 1 = .done (.pass, []) ∧
        c.calls 2 = .done (.pass, [.ok ()]) ∧
        (c.obtained ++ c.rest).Perm
          [[1, 0, 0, 10, 0xf2, 0xf9, 0, 0], [2, 0, 0, 10, 0xf2, 0xf9, 0, 0]] := by
  intro knock frames schedule
  -- everybody gets as many turns as an inspection takes
  have hcount (i : Fin 3) : turnsOfInspection ≤ schedule.count (.inspector i) := by
    rw [List.count_flatten, List.map_replicate, List.sum_replicate_nat]
    refine Nat.le_mul_of_pos_right _ ?_
    revert i
    decide
  obtain ⟨ring, hmake⟩ : ∃ ring, Ring.make 32 = .ok ring := ⟨_, rfl⟩
  obtain ⟨hreturns, hresult, hobtained⟩ := inspect_concurrently hmake {} frames
    (by decide +kernel) (by decide +kernel) schedule
  have hdone (i : Fin 3) :
      ((Inspections.start {} ring frames).run schedule).calls i =
        .done (.pass, (classify {} frames[i]).toList.map fun _ => .ok ()) := by
    obtain ⟨result, hreturned⟩ := hreturns i (hcount i)
    rw [hreturned, hresult i result hreturned]
  have hrecords : (frames.filterMap (classify {})).map Knock.encode =
      [[1, 0, 0, 10, 0xf2, 0xf9, 0, 0], [2, 0, 0, 10, 0xf2, 0xf9, 0, 0]] := by
    decide +kernel
  obtain ⟨hfirst, hother, hsecond⟩ : classify {} frames[(0 : Fin 3)] = some ⟨0x0a000001, 62201, 0⟩ ∧
      classify {} frames[(1 : Fin 3)] = none ∧
      classify {} frames[(2 : Fin 3)] = some ⟨0x0a000002, 62201, 0⟩ := by
    decide +kernel
  refine ⟨ring, hmake, ?_, ?_, ?_, ?_⟩
  · rw [hdone 0, hfirst]
    rfl
  · rw [hdone 1, hother]
    rfl
  · rw [hdone 2, hsecond]
    rfl
  · rw [← hrecords]
    exact hobtained fun i => hreturns i (hcount i)

end PortKnock
