import Mathlib.Algebra.BigOperators.Group.Finset.Basic
import Mathlib.Algebra.Order.BigOperators.Group.Finset
import PortKnock.Proofs.Ring.Delivery
import PortKnock.Proofs.Ring.Fifo

/-!
# Writers that get in each other's way

A writer gives up when it has lost too many swaps.  Every swap that it loses has
been won by somebody else since it last looked, so as long as there are no more
calls than attempts, and room for all of their records, every call succeeds,
and it does so within a fixed number of its own requests
(`Traffic.Orderly`).

## Strategy

* **No swap is lost for nothing.**  In `Writing.Prompt`, the head that a call has
  seen is the start of a reservation whose number makes up for the attempts that
  the call has used up.
* **Room is not wasted.**  What has been reserved is exactly what the calls that
  have won a place wanted (`Traffic.Orderly.accounts`), so a call without a place
  still finds room for its own record.
* **Requests are counted.**  `Writing.left` bounds what a call has left to do, and
  every request makes it smaller.
-/

namespace PortKnock.Ring

open Access

variable {ring ring' : Ring} {log log' : List Reservation} {passed : Nat} {gone : Nat → Prop}
variable {request : Request} {reply : request.Reply} {data : List UInt8} {flags : UInt64}

/-! ## One request -/

/-- Requests that are left in a stage at most. -/
def Writing.left (data : List UInt8) : Writing → Nat
  | arriving => (payloadWords data).length + 2 * reserveAttempts + 4
  | measuring more _ => (payloadWords data).length + 2 * more + 5
  | claiming more _ => (payloadWords data).length + 2 * more + 4
  | copying _ _ rest => rest.length + 3
  | deciding _ => 2
  | signalling => 1
  | finished _ => 0

/-- Every request brings a call nearer to its end. -/
theorem Writing.Step.left_lt {byteSize : UInt64} {stage stage' : Writing}
    (step : Step byteSize data flags stage request reply stage') :
    stage'.left data < stage.left data := by
  cases step with
  | @lose more head current =>
    cases more <;> simp only [lost, left] <;> omega
  | complete =>
    unfold sealed
    split
    · simp only [left]
      omega
    · split <;> simp only [left] <;> omega
  | _ =>
    simp only [left, List.length_cons, reserveAttempts]
    omega

/-- Nothing a call does moves the places where records start. -/
theorem Call.start_record (call : Call) {k : Nat} (hk : k ≤ log.length) :
    start (call.record log request reply).1 k = start log k := by
  rcases call.record_eq log request reply with hlog | ⟨r, hlog⟩ | ⟨j, hlog⟩
  · rw [hlog]
  · rw [hlog, start_append [r] hk]
  · rw [hlog, start_commitAt]

theorem Call.length_le_record (call : Call) :
    log.length ≤ (call.record log request reply).1.length := by
  rcases call.record_eq log request reply with hlog | ⟨r, hlog⟩ | ⟨k, hlog⟩
  · rw [hlog]
  · rw [hlog, List.length_append]
    exact Nat.le_add_right _ _
  · rw [hlog, length_commitAt]

/-- No attempt is lost for nothing, and no call has failed: what a call has seen is the start of
reservation number `k`, and at least `k` attempts may have been used up. -/
def Writing.Prompt (log : List Reservation) : Writing → Prop
  | measuring more head | claiming more head =>
    ∃ k ≤ log.length, head.toNat = 8 * start log k ∧ reserveAttempts ≤ more + 1 + k
  | finished result => result = .ok ()
  | _ => True

theorem Writing.Prompt.mono {stage : Writing} (prompt : stage.Prompt log)
    (hlength : log.length ≤ log'.length) (hstart : ∀ k ≤ log.length, start log' k = start log k) :
    stage.Prompt log' := by
  cases stage with
  | measuring more head | claiming more head =>
    obtain ⟨k, hk, hhead, hattempts⟩ := prompt
    exact ⟨k, Nat.le_trans hk hlength, by rw [hstart k hk]; exact hhead, hattempts⟩
  | _ => exact prompt

/-- Wherever a writer looks from, it finds room for its record if there is some behind all
reservations. -/
theorem not_full_of_room (layout : Layout ring log passed gone)
    (hdata : Admissible ring.byteSize data) {head : UInt64}
    (hhead : head.toNat ≤ ring.producerPos.toNat)
    (hroom : framed log + footprint data.length ≤ ring.byteSize.toNat) :
    ¬ distance head ring.consumerPos + total data > ring.byteSize := by
  have hproducer := layout.producer_eq
  have hlt := hdata.toNat_total_lt
  unfold framed at hroom
  rw [gt_iff_lt, UInt64.lt_iff_toNat_lt, layout.toNat_distance_add hhead (by omega),
    hdata.toNat_total]
  omega

/-- A call that has lost a swap was beaten by a reservation that is behind the one it had seen. -/
theorem prompt_lost (layout : Layout ring log passed gone) {head : UInt64} {more : Nat}
    (prompt : (Writing.claiming more head).Prompt log) (hne : ring.producerPos ≠ head)
    (hattempts : log.length < reserveAttempts) :
    (Writing.lost ring.producerPos more).Prompt log := by
  obtain ⟨k, hk, hhead, hmore⟩ := prompt
  have hproducer := layout.producer_eq
  -- had nobody reserved since, the swap would have been won
  have hlt : k < log.length := by
    refine Nat.lt_of_le_of_ne hk ?_
    rintro rfl
    exact hne (UInt64.toNat_inj.mp (by omega))
  cases more with
  | zero => omega
  | succ more => exact ⟨log.length, Nat.le_refl _, hproducer, by omega⟩

theorem prompt_sealed (flags pos : UInt64) : (Writing.sealed flags pos).Prompt log := by
  unfold Writing.sealed
  split
  · trivial
  · split
    · trivial
    · rfl

/-- A call that finds room and has fewer reservations before it than attempts does not fail. -/
theorem Writing.Step.prompt {call : Call} {stage stage' : Writing}
    (step : Step ring.byteSize call.data call.flags stage request reply stage')
    (layout : Layout ring log passed gone)
    (sound : stage.Sound ring log call.data call.flags call.place) (prompt : stage.Prompt log)
    (hperform : ring.perform request = (reply, ring'))
    (hroom : call.place = none → framed log + footprint call.data.length ≤ ring.byteSize.toNat)
    (hattempts : call.place = none → log.length < reserveAttempts) :
    stage'.Prompt (call.record log request reply).1 := by
  obtain ⟨data, flags, work, place⟩ := call
  cases step with
  | arrive head =>
    cases hperform
    have hmore : reserveAttempts ≤ reserveAttempts - 1 + 1 + log.length := by
      rw [reserveAttempts]
      omega
    exact ⟨log.length, Nat.le_refl _, layout.producer_eq, hmore⟩
  | full tail hfull =>
    -- there is room for everybody, so this does not happen
    cases hperform
    cases sound with
    | measuring hdata hhead => exact absurd hfull (not_full_of_room layout hdata hhead (hroom rfl))
  | measure tail hroom => exact prompt
  | win => trivial
  | @lose more head current =>
    cases sound with
    | claiming _ _ =>
      simp only [perform] at hperform
      split at hperform
      · cases hperform
      · rename_i hne
        cases hperform
        exact prompt_lost layout prompt hne (hattempts rfl)
  | copy => trivial
  | complete => exact prompt_sealed _ _
  | caughtUp => trivial
  | behind => rfl
  | signal => rfl

/-! ## Calls in time -/

/-- A call is in a sound stage, will not fail, and has `budget` requests left at most. -/
def Call.Prompt (ring : Ring) (log : List Reservation) (budget : Nat) (call : Call) : Prop :=
  ∃ stage : Writing, call.work = stage.work ring.byteSize call.data call.flags ∧
    stage.Sound ring log call.data call.flags call.place ∧ stage.Prompt log ∧
    stage.left call.data ≤ budget

theorem Call.Prompt.beside {own : Option Nat} {call : Call} {budget : Nat}
    (prompt : call.Prompt ring log budget) (beside : Beside own ring log ring' log')
    (hplace : ∀ k, call.place = some k → own ≠ some k) (hlength : log.length ≤ log'.length)
    (hstart : ∀ k ≤ log.length, start log' k = start log k) : call.Prompt ring' log' budget := by
  obtain ⟨stage, hwork, sound, hprompt, hleft⟩ := prompt
  refine ⟨stage, ?_, sound.beside beside hplace, hprompt.mono hlength hstart, hleft⟩
  rw [beside.byteSize_eq]
  exact hwork

theorem Call.Prompt.act {call : Call} {budget : Nat}
    {next : request.Reply → Access (Except Refusal Unit)} (prompt : call.Prompt ring log budget)
    (layout : Layout ring log passed gone) (hwork : call.work = .request request next)
    (hperform : ring.perform request = (reply, ring'))
    (hbound : framed (call.record log request reply).1 < 2 ^ 64)
    (hroom : call.place = none → framed log + footprint call.data.length ≤ ring.byteSize.toNat)
    (hattempts : call.place = none → log.length < reserveAttempts) :
    Writing.Advance ring log passed gone call.place ring' (call.record log request reply).1
        (call.record log request reply).2 ∧
      Call.Prompt ring' (call.record log request reply).1 (budget - 1)
        { call with work := next reply, place := (call.record log request reply).2 } := by
  obtain ⟨stage, hstage, sound, hprompt, hleft⟩ := prompt
  obtain ⟨stage', hstep, hnext⟩ := Writing.step_of_work (hstage.symm.trans hwork) reply
  obtain ⟨advance, sound'⟩ := hstep.advance layout sound hperform hbound
  obtain ⟨_, beside, _⟩ := advance.beside
  have hlt := hstep.left_lt
  refine ⟨advance, stage', ?_, sound', hstep.prompt layout sound hprompt hperform hroom hattempts,
    by show stage'.left call.data ≤ budget - 1; omega⟩
  rw [beside.byteSize_eq]
  exact hnext

theorem Writing.eq_finished_of_work {byteSize : UInt64} {stage : Writing}
    {result : Except Refusal Unit} (hwork : stage.work byteSize data flags = .done result) :
    stage = .finished result := by
  cases stage with
  | copying pos next rest => cases rest <;> cases hwork
  | finished result' =>
    cases hwork
    rfl
  | _ => cases hwork

/-! ## What the calls have won -/

/-- The payload of a call that has made its reservation. -/
def Call.won (call : Call) : Multiset (List UInt8) :=
  if call.place.isSome then {call.data} else 0

/-- The payloads of a history, in any order. -/
def payloads (log : List Reservation) : Multiset (List UInt8) :=
  (log.map Reservation.data : List (List UInt8))

theorem payloads_concat (log : List Reservation) (r : Reservation) :
    payloads (log ++ [r]) = payloads log + {r.data} := by
  rw [payloads, List.map_append, ← Multiset.coe_add]
  rfl

theorem payloads_commitAt (log : List Reservation) (k : Nat) :
    payloads (commitAt log k) = payloads log := by
  rw [payloads, map_data_commitAt, payloads]

theorem card_payloads (log : List Reservation) : (payloads log).card = log.length := by
  rw [payloads, Multiset.coe_card, List.length_map]

/-- A request makes no reservation, or the one that the call has not had before. -/
theorem Call.Sound.record_cases {call : Call} {next : request.Reply → Access (Except Refusal Unit)}
    (sound : call.Sound ring log) (hwork : call.work = .request request next)
    (reply : request.Reply) :
    payloads (call.record log request reply).1 = payloads log ∧
        (call.record log request reply).2 = call.place ∨
      payloads (call.record log request reply).1 = payloads log + {call.data} ∧
        call.place = none ∧ (call.record log request reply).2 = some log.length := by
  obtain ⟨stage, hstage, sound⟩ := sound
  obtain ⟨stage', hstep, _⟩ := Writing.step_of_work (hstage.symm.trans hwork) reply
  obtain ⟨data, flags, work, place⟩ := call
  cases hstep with
  | @win more head =>
    cases sound with
    | claiming _ _ => exact Or.inr ⟨payloads_concat log ⟨data, flags, head, false⟩, rfl, rfl⟩
  | copy | complete =>
    cases sound with
    | copying hk _ _ _ =>
      refine Or.inl ⟨?_, rfl⟩
      simp only [Call.record]
      split
      · exact payloads_commitAt log _
      · rfl
  | _ => exact Or.inl ⟨rfl, rfl⟩

namespace Traffic

variable {ι : Type} [DecidableEq ι] [Fintype ι] {s s' : Traffic ι} {i : ι} {reading : Reading}
  {wanted : ι → Option (List UInt8)} {budget : ι → Nat}

/-- What all calls together have won. -/
def won (s : Traffic ι) : Multiset (List UInt8) :=
  ∑ i, (s.calls i).elim 0 Call.won

/-- What one call wins, all calls together win. -/
theorem won_update {call : Call} (hcall : s.calls i = some call) (new : Call) :
    (∑ j, (Function.update s.calls i (some new) j).elim 0 Call.won) + call.won =
      s.won + new.won := by
  have hothers :
      ∑ j ∈ Finset.univ.erase i, (Function.update s.calls i (some new) j).elim 0 Call.won =
        ∑ j ∈ Finset.univ.erase i, (s.calls j).elim 0 Call.won := by
    refine Finset.sum_congr rfl fun j hj => ?_
    rw [Function.update_of_ne (Finset.ne_of_mem_erase hj)]
  rw [won, ← Finset.add_sum_erase _ _ (Finset.mem_univ i),
    ← Finset.add_sum_erase _ (fun j => (s.calls j).elim 0 Call.won) (Finset.mem_univ i), hothers,
    Function.update_self, hcall]
  simp only [Option.elim_some]
  ac_rfl

/-- The payloads of all calls. -/
def wants (wanted : ι → Option (List UInt8)) : Multiset (List UInt8) :=
  ∑ i, (wanted i).elim 0 fun data => {data}

/-- Octets that payloads take, framing included. -/
def load (payloads : Multiset (List UInt8)) : Nat :=
  (payloads.map fun data => footprint data.length).sum

/-- There are no more calls than attempts to reserve, and room for all of their records. -/
structure Affordable (size : Nat) (wanted : ι → Option (List UInt8)) : Prop where
  attempts : (wants wanted).card ≤ reserveAttempts
  room : load (wants wanted) ≤ size

/-- The calls want what is given, nothing but what they have won is reserved, and with the given
numbers of requests each of them will succeed. -/
structure Orderly (s : Traffic ι) (wanted : ι → Option (List UInt8)) (budget : ι → Nat)
    (reading : Reading) : Prop where
  consistent : s.Consistent reading
  wanted_eq : ∀ i, (s.calls i).map Call.data = wanted i
  prompt : ∀ i call, s.calls i = some call → call.Prompt s.ring s.log (budget i)
  accounts : payloads s.log = s.won
  /-- Every reservation has been won by a call that is still there. -/
  owned : ∀ k < s.log.length, ∃ i call, s.calls i = some call ∧ call.place = some k

omit [DecidableEq ι] in
theorem framed_eq_load (log : List Reservation) : framed log = load (payloads log) := by
  have hwaiting : waiting log 0 = log.map Reservation.data := rfl
  rw [load, payloads, Multiset.map_coe, Multiset.sum_coe, ← hwaiting]
  exact (load_waiting log 0).symm

omit [DecidableEq ι] [Fintype ι] in
theorem load_add (payloads more : Multiset (List UInt8)) :
    load (payloads + more) = load payloads + load more := by
  rw [load, Multiset.map_add, Multiset.sum_add, load, load]

omit [DecidableEq ι] [Fintype ι] in
theorem load_le_load {payloads more : Multiset (List UInt8)} (hle : payloads ≤ more) :
    load payloads ≤ load more := by
  obtain ⟨rest, rfl⟩ := Multiset.le_iff_exists_add.mp hle
  rw [load_add]
  exact Nat.le_add_right _ _

omit [DecidableEq ι] [Fintype ι] in
theorem won_elim_le (call : Option Call) :
    call.elim 0 Call.won ≤ (call.map Call.data).elim 0 fun data => {data} := by
  cases call with
  | none => exact le_refl _
  | some call =>
    simp only [Option.elim_some, Option.map_some, Call.won]
    split
    · exact le_refl _
    · exact Multiset.zero_le _

omit [DecidableEq ι] in
theorem won_le_wants (hwanted : ∀ i, (s.calls i).map Call.data = wanted i) :
    s.won ≤ wants wanted :=
  Finset.sum_le_sum fun i _ => by
    rw [← hwanted i]
    exact won_elim_le (s.calls i)

/-- What a call wants that has won nothing comes on top of what all have won. -/
theorem won_add_le_wants (hwanted : ∀ i, (s.calls i).map Call.data = wanted i) {call : Call}
    (hcall : s.calls i = some call) (hplace : call.place = none) :
    s.won + {call.data} ≤ wants wanted := by
  have hnothing : (s.calls i).elim 0 Call.won = 0 := by simp [hcall, Call.won, hplace]
  have hself : (wanted i).elim 0 (fun data => ({data} : Multiset (List UInt8))) = {call.data} := by
    simp [← hwanted i, hcall]
  -- nobody else has won more than it wants, and this call has won nothing
  have hothers : ∑ j ∈ Finset.univ.erase i, (s.calls j).elim 0 Call.won ≤
      ∑ j ∈ Finset.univ.erase i, (wanted j).elim 0 fun data => {data} :=
    Finset.sum_le_sum fun j _ => by
      rw [← hwanted j]
      exact won_elim_le (s.calls j)
  rw [won, wants, ← Finset.add_sum_erase _ _ (Finset.mem_univ i),
    ← Finset.add_sum_erase _ (fun j => (wanted j).elim 0 _) (Finset.mem_univ i), hnothing, hself,
    zero_add, add_comm]
  exact add_le_add_right hothers _

/-- A call that has won nothing finds room, and it has been beaten less often than it tries. -/
theorem Orderly.room (orderly : s.Orderly wanted budget reading)
    (affordable : Affordable s.ring.byteSize.toNat wanted) {call : Call}
    (hcall : s.calls i = some call) (hplace : call.place = none) :
    framed s.log + footprint call.data.length ≤ s.ring.byteSize.toNat ∧
      s.log.length < reserveAttempts := by
  have hle := won_add_le_wants orderly.wanted_eq hcall hplace
  rw [← orderly.accounts] at hle
  have hload := Nat.le_trans (load_le_load hle) affordable.room
  have hcard := Nat.le_trans (Multiset.card_le_card hle) affordable.attempts
  refine ⟨?_, ?_⟩
  · rw [framed_eq_load]
    rw [load_add] at hload
    simpa [load] using hload
  · simp only [payloads, Multiset.card_add, Multiset.coe_card, List.length_map,
      Multiset.card_singleton] at hcard
    exact hcard

/-! ## Moves -/

section Act

variable {call : Call} {request : Request} {next : request.Reply → Access (Except Refusal Unit)}

omit [Fintype ι] in
theorem wanted_act (hwanted : ∀ i, (s.calls i).map Call.data = wanted i)
    (hcall : s.calls i = some call) (j : ι) :
    ((s.act i call request next).calls j).map Call.data = wanted j := by
  rw [← hwanted j]
  by_cases hji : j = i
  · subst hji
    simp only [act, Function.update_self, hcall, Option.map_some]
  · simp only [act, Function.update_of_ne hji]

theorem accounts_act (orderly : s.Orderly wanted budget reading) (hcall : s.calls i = some call)
    (hwork : call.work = .request request next) :
    payloads (s.act i call request next).log = (s.act i call request next).won := by
  have hwon := won_update hcall { call with
    work := next (s.ring.perform request).1
    place := (call.record s.log request (s.ring.perform request).1).2 }
  have hsound := orderly.consistent.writers i call hcall
  refine add_right_cancel (b := call.won) (Eq.trans ?_ hwon.symm)
  rw [← orderly.accounts]
  -- what the call has won by this request is what the history has grown by
  rcases hsound.record_cases hwork (s.ring.perform request).1 with ⟨hlog, hplace⟩ |
    ⟨hlog, hnone, hplace⟩
  · simp only [act, Call.won, hlog, hplace]
  · simp [act, Call.won, hlog, hnone, hplace]

theorem owned_act (orderly : s.Orderly wanted budget reading) (hcall : s.calls i = some call)
    (hwork : call.work = .request request next) {k : Nat}
    (hk : k < (s.act i call request next).log.length) :
    ∃ j call', (s.act i call request next).calls j = some call' ∧ call'.place = some k := by
  have hsound := orderly.consistent.writers i call hcall
  rw [← card_payloads] at hk
  rcases hsound.record_cases hwork (s.ring.perform request).1 with ⟨hlog, hplace⟩ |
    ⟨hlog, hnone, hplace⟩
  · rw [act, hlog, card_payloads] at hk
    obtain ⟨j, call', hcall', hown⟩ := orderly.owned k hk
    by_cases hji : j = i
    · subst hji
      rw [hcall, Option.some.injEq] at hcall'
      exact ⟨j, _, Function.update_self .., by rw [hplace, hcall', hown]⟩
    · exact ⟨j, call', (Function.update_of_ne hji ..).trans hcall', hown⟩
  · rw [act, hlog, Multiset.card_add, card_payloads, Multiset.card_singleton] at hk
    rcases Nat.lt_succ_iff_lt_or_eq.mp hk with hlt | rfl
    · obtain ⟨j, call', hcall', hown⟩ := orderly.owned k hlt
      have hji : j ≠ i := by
        rintro rfl
        rw [hcall, Option.some.injEq] at hcall'
        rw [← hcall', hnone] at hown
        cases hown
      exact ⟨j, call', (Function.update_of_ne hji ..).trans hcall', hown⟩
    · exact ⟨i, _, Function.update_self .., hplace⟩

end Act

/-- A request of a writer keeps everything in order. -/
theorem step_act_orderly (orderly : s.Orderly wanted budget reading)
    (affordable : Affordable s.ring.byteSize.toNat wanted) (hstep : s.step (.act i) = some s') :
    s'.Orderly wanted (Function.update budget i (budget i - 1)) reading := by
  have hact := hstep
  obtain ⟨call, request, next, hcall, hwork, rfl⟩ := step_act hstep
  have hperform : s.ring.perform request =
      ((s.ring.perform request).1, (s.ring.perform request).2) := rfl
  have hwanted : ∀ j, ((s.act i call request next).calls j).map Call.data = wanted j :=
    wanted_act orderly.wanted_eq hcall
  have haccounts := accounts_act orderly hcall hwork
  have hbound : framed (s.act i call request next).log < 2 ^ 64 := by
    rw [framed_eq_load, haccounts]
    exact Nat.lt_of_le_of_lt (load_le_load (won_le_wants hwanted))
      (Nat.lt_of_le_of_lt affordable.room s.ring.byteSize.toNat_lt)
  have hroom := fun hplace => orderly.room affordable hcall hplace
  obtain ⟨advance, prompt⟩ := (orderly.prompt i call hcall).act orderly.consistent.layout hwork
    hperform hbound (fun hplace => (hroom hplace).1) (fun hplace => (hroom hplace).2)
  obtain ⟨own, beside, hown⟩ := advance.beside
  -- the request counts against the budget of this call, and against nobody else's
  refine ⟨step_act_consistent orderly.consistent hact hbound, hwanted, ?_, haccounts,
    fun k hk => owned_act orderly hcall hwork hk⟩
  intro j call' hcall'
  rcases calls_update hcall' with ⟨rfl, hnew⟩ | ⟨hji, hold⟩
  · cases hnew
    rw [Function.update_self]
    exact prompt
  · rw [Function.update_of_ne hji]
    refine (orderly.prompt j call' hold).beside beside (fun k hk hk' => ?_)
      call.length_le_record fun k hk => call.start_record hk
    exact hji (orderly.consistent.distinct j i call' call k hold hcall hk (hown k hk'))

theorem step_next_orderly (orderly : s.Orderly wanted budget reading)
    (hstep : s.step .next = some s') : s'.Orderly wanted budget .locating := by
  have consistent := step_next_consistent orderly.consistent hstep
  obtain ⟨_, rfl⟩ := step_next hstep
  exact ⟨consistent, orderly.wanted_eq, orderly.prompt, orderly.accounts, orderly.owned⟩

theorem step_read_orderly (orderly : s.Orderly wanted budget reading)
    (hstep : s.step .read = some s') : ∃ reading', s'.Orderly wanted budget reading' := by
  obtain ⟨reading', consistent, request, reply, hrequest, hperform⟩ :=
    step_read_consistent orderly.consistent hstep
  have advance := hrequest.advance orderly.consistent.layout orderly.consistent.reader hperform
  obtain ⟨_, _, _, rfl⟩ := step_read hstep
  refine ⟨reading', consistent, orderly.wanted_eq, fun j call hcall => ?_, orderly.accounts,
    orderly.owned⟩
  exact (orderly.prompt j call hcall).beside advance.beside (by simp) (Nat.le_refl _)
    fun _ _ => rfl

theorem step_deliver_orderly (orderly : s.Orderly wanted budget reading)
    (hstep : s.step .deliver = some s') : s'.Orderly wanted budget .idle := by
  have consistent := step_deliver_consistent orderly.consistent hstep
  obtain ⟨_, _, rfl⟩ := step_deliver hstep
  exact ⟨consistent, orderly.wanted_eq, orderly.prompt, orderly.accounts, orderly.owned⟩

/-! ## Beginning and end -/

/-- All calls have been made, and none has done anything yet. -/
def started (ring : Ring) (wanted : ι → Option (List UInt8)) (flags : UInt64) : Traffic ι :=
  { initial ι ring with
    calls := fun i => (wanted i).map fun data =>
      { data, flags, work := output ring.byteSize data flags } }

/-- Requests that a call of `output` takes at most. -/
def requestsFor (data : List UInt8) : Nat :=
  (payloadWords data).length + 2 * reserveAttempts + 4

omit [DecidableEq ι] in
theorem started_orderly {size : UInt64} (hmake : make size = .ok ring) (flags : UInt64)
    (hadmissible : ∀ i, ∀ data ∈ wanted i, Admissible ring.byteSize data)
    (hbudget : ∀ i, ∀ data ∈ wanted i, requestsFor data ≤ budget i) :
    (started ring wanted flags).Orderly wanted budget .idle := by
  have hnew : ∀ {i call}, (started ring wanted flags).calls i = some call →
      ∃ data ∈ wanted i, call = { data, flags, work := output ring.byteSize data flags } := by
    intro i call hcall
    obtain ⟨data, hdata, rfl⟩ := Option.map_eq_some_iff.mp hcall
    exact ⟨data, hdata, rfl⟩
  refine ⟨⟨rfl, Layout.of_make hmake, .idle, ?_, ?_, List.nil_prefix⟩, ?_, ?_, ?_, ?_⟩
  · intro i call hcall
    obtain ⟨data, _, rfl⟩ := hnew hcall
    exact Call.sound_output ring [] data flags
  · intro i j call call' k hcall _ hplace
    obtain ⟨data, _, rfl⟩ := hnew hcall
    cases hplace
  · intro i
    rw [started, Option.map_map]
    exact Option.map_id' ..
  · intro i call hcall
    obtain ⟨data, hdata, rfl⟩ := hnew hcall
    exact ⟨.arriving, output_eq (hadmissible i data hdata) flags,
      .arriving (hadmissible i data hdata), trivial, hbudget i data hdata⟩
  · refine (Finset.sum_eq_zero fun i _ => ?_).symm
    simp only [started]
    cases wanted i <;> rfl
  · exact fun k hk => absurd hk (Nat.not_lt_zero k)

omit [DecidableEq ι] in
/-- A call that returns has not failed, and its record is complete. -/
theorem Orderly.of_done (orderly : s.Orderly wanted budget reading) {call : Call}
    (hcall : s.calls i = some call) {result : Except Refusal Unit}
    (hdone : call.work = .done result) :
    result = .ok () ∧ ∃ k pos, call.place = some k ∧
      s.log[k]? = some ⟨call.data, call.flags, pos, true⟩ := by
  obtain ⟨stage, hwork, sound, hprompt, -⟩ := orderly.prompt i call hcall
  have hstage := Writing.eq_finished_of_work (hwork.symm.trans hdone)
  subst hstage
  obtain rfl : result = .ok () := hprompt
  generalize hplace : call.place = place at sound
  cases sound with
  | @written k pos hk => exact ⟨rfl, k, pos, rfl, hk⟩

/-- Whoever has returned, or has never called, needs no request. -/
theorem Orderly.of_turn_passed (orderly : s.Orderly wanted budget reading)
    (hdone : ∀ call, s.calls i = some call → ∃ result, call.work = .done result) :
    s.Orderly wanted (Function.update budget i (budget i - 1)) reading := by
  refine { orderly with prompt := fun j call hcall => ?_ }
  obtain ⟨stage, hwork, sound, hprompt, hleft⟩ := orderly.prompt j call hcall
  refine ⟨stage, hwork, sound, hprompt, ?_⟩
  by_cases hji : j = i
  · subst hji
    obtain ⟨result, hresult⟩ := hdone call hcall
    rw [Writing.eq_finished_of_work (hwork.symm.trans hresult)]
    exact Nat.zero_le _
  · rw [Function.update_of_ne hji]
    exact hleft

omit [DecidableEq ι] in
/-- A call that has no requests left returns. -/
theorem Orderly.done_of_budget (orderly : s.Orderly wanted budget reading) {call : Call}
    (hcall : s.calls i = some call) (hbudget : budget i = 0) :
    ∃ result, call.work = .done result := by
  obtain ⟨stage, hwork, _, _, hleft⟩ := orderly.prompt i call hcall
  rw [hbudget] at hleft
  cases stage with
  | finished result => exact ⟨result, hwork⟩
  | _ =>
    simp only [Writing.left] at hleft
    omega

omit [DecidableEq ι] in
/-- Once all calls have returned, everything that was wanted is there, and complete. -/
theorem Orderly.all_done (orderly : s.Orderly wanted budget reading)
    (hdone : ∀ i call, s.calls i = some call → ∃ result, call.work = .done result) :
    payloads s.log = wants wanted ∧ ∀ r ∈ s.log, r.committed = true := by
  constructor
  · rw [orderly.accounts]
    refine Finset.sum_congr rfl fun i _ => ?_
    rw [← orderly.wanted_eq i]
    cases hcall : s.calls i with
    | none => rfl
    | some call =>
      obtain ⟨result, hresult⟩ := hdone i call hcall
      obtain ⟨_, k, _, hplace, _⟩ := orderly.of_done hcall hresult
      simp [Call.won, hplace]
  · intro r hr
    obtain ⟨k, hk⟩ := List.getElem?_of_mem hr
    obtain ⟨i, call, hcall, hplace⟩ := orderly.owned k (List.getElem?_eq_some_iff.mp hk).1
    obtain ⟨result, hresult⟩ := hdone i call hcall
    obtain ⟨_, k', pos, hplace', hk'⟩ := orderly.of_done hcall hresult
    rw [hplace, Option.some.injEq] at hplace'
    subst hplace'
    rw [hk, Option.some.injEq] at hk'
    rw [hk']

/-! ## The last call of the reader -/

omit [Fintype ι] in
/-- The reader's call, run to its end by itself. -/
theorem Consistent.finish_reading {work : Access (Option (List UInt8))}
    (consistent : s.Consistent reading) (hwork : s.reading = some work) :
    ∃ s' : Traffic ι, s'.Consistent .idle ∧ s'.log = s.log ∧ s'.ring = (work.run s.ring).2 ∧
      s'.delivered = s.delivered ++ (work.run s.ring).1.toList := by
  induction work generalizing s reading with
  | done answer =>
    have hstep : s.step .deliver = some { s with
        reading := none
        delivered := s.delivered ++ answer.toList
        last := some answer } := by
      simp only [step, hwork]
    exact ⟨_, step_deliver_consistent consistent hstep, rfl, rfl, rfl⟩
  | request request next ih =>
    have hstep : s.step .read = some { s with
        ring := (s.ring.perform request).2
        reading := some (next (s.ring.perform request).1) } := by
      simp only [step, hwork]
    obtain ⟨reading', consistent', _⟩ := step_read_consistent consistent hstep
    obtain ⟨s', hidle, hlog, hring, hdelivered⟩ := ih _ consistent' rfl
    exact ⟨s', hidle, hlog, hring, hdelivered⟩

omit [DecidableEq ι] [Fintype ι] in
/-- What has been handed out and what is still there are all records, if all are complete. -/
theorem Consistent.delivered_append_drain (consistent : s.Consistent .idle)
    (hcommitted : ∀ r ∈ s.log, r.committed = true) :
    s.delivered ++ s.ring.drain.1 = s.log.map Reservation.data := by
  have settled : Settled s.ring s.log s.delivered.length := ⟨consistent.layout, hcommitted⟩
  obtain ⟨ring', hdrain, _⟩ := drain_of_settled settled
  obtain ⟨rest, hrest⟩ := consistent.delivered
  rw [hdrain, waiting, List.map_drop, ← hrest, List.drop_left]

end Traffic

end PortKnock.Ring
