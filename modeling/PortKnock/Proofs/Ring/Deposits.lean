import PortKnock.Proofs.Ring.Delivery

/-!
# Owners who take their time

`output` reserves room, copies the payload and commits the record in one go.
Here these are calls of their own: a reservation belongs to an owner, who may
begin to copy and to commit whenever it likes, while others reserve behind it
and the reader comes up to it.  `Deposits` is a moment of that, and a `Move`
takes an owner or the reader one step further, as in a `Traffic`.

## Strategy

What an owner has left to do is what a call of `output` has left to do that asks
for no wakeup, so the whole is mirrored by a `Traffic` (`Mirror`), which is
`Consistent` after every run.  Payloads that are too long for the ring are the
exception: `output` does not even try to reserve room for them.  An owner that
tries does so in vain (`Deposit.Vain`), and nobody notices.
-/

namespace PortKnock.Ring

/-! ## Owners -/

/-- How far a payload is on its way into the ring. -/
inductive Phase
  /-- In the call that reserves room, or back from it. -/
  | reserving (work : Access (Except Refusal UInt64))
  /-- In the call that copies the payload of the record at `pos`, or back from it. -/
  | writing (pos : UInt64) (work : Access Unit)
  /-- In the call that commits the record at `pos`, or back from it. -/
  | committing (pos : UInt64) (work : Access Unit)

/-- The next request of the call and the phase that its reply leads to, unless the call has
returned. -/
def Phase.next? : Phase → Option ((request : Request) × (request.Reply → Phase))
  | reserving (.request request next) => some ⟨request, fun reply => reserving (next reply)⟩
  | writing pos (.request request next) => some ⟨request, fun reply => writing pos (next reply)⟩
  | committing pos (.request request next) =>
    some ⟨request, fun reply => committing pos (next reply)⟩
  | _ => none

/-- A payload with its owner. -/
structure Deposit where
  data : List UInt8
  phase : Phase
  /-- The number of the reservation that was won, counted from the first one ever. -/
  place : Option Nat := none

namespace Deposit

/-- What is left to do until the record is complete. -/
def rest (deposit : Deposit) : Access (Except Refusal Unit) :=
  match deposit.phase with
  | .reserving work => work >>= afterReserving deposit.data noWakeup
  | .writing pos work => do
    work
    commit pos (UInt64.ofNat deposit.data.length)
    notify pos noWakeup
    return .ok ()
  | .committing pos work => do
    work
    notify pos noWakeup
    return .ok ()

/-- The call of `output` that does the same without a break. -/
def call (deposit : Deposit) : Call where
  data := deposit.data
  flags := noWakeup
  work := deposit.rest
  place := deposit.place

end Deposit

/-- Owners with names from `ι` and the reader, at one moment. -/
structure Deposits (ι : Type) where
  ring : Ring
  /-- The payload that each of the owners is busy with. -/
  owners : ι → Option Deposit
  /-- What is left of the reader's call. -/
  reading : Option (Access (Option (List UInt8)))
  /-- All reservations that were won. -/
  log : List Reservation
  /-- All records that the reader has handed out. -/
  delivered : List (List UInt8)

namespace Deposits

/-- What can happen next. -/
inductive Move (ι : Type)
  /-- An owner begins to reserve room for a payload. -/
  | reserve (i : ι) (data : List UInt8)
  /-- An owner that has won a reservation begins to copy the payload. -/
  | write (i : ι)
  /-- An owner that has copied the payload begins to commit the record. -/
  | commit (i : ι)
  /-- The call of an owner performs its next request. -/
  | act (i : ι)
  /-- An owner is done, or has not won a reservation. -/
  | leave (i : ι)
  /-- The reader calls `next`. -/
  | next
  /-- The call of the reader performs its next request. -/
  | read
  /-- The call of the reader returns. -/
  | deliver
  deriving DecidableEq, Repr

variable {ι : Type} [DecidableEq ι]

/-- Nobody is busy. -/
def initial (ι : Type) (ring : Ring) : Deposits ι where
  ring
  owners _ := none
  reading := none
  log := []
  delivered := []

/-- Owner `i` goes on with the given payload, or with none. -/
def set (d : Deposits ι) (i : ι) (deposit : Option Deposit) : Deposits ι :=
  { d with owners := Function.update d.owners i deposit }

/-- Owner `i` performs one request. -/
def act (d : Deposits ι) (i : ι) (deposit : Deposit) (request : Request)
    (next : request.Reply → Phase) : Deposits ι :=
  let reply := (d.ring.perform request).1
  let noted := deposit.call.record d.log request reply
  { d with
    ring := (d.ring.perform request).2
    log := noted.1
    owners := Function.update d.owners i
      (some { deposit with phase := next reply, place := noted.2 }) }

/-- The moment after a move, if it is possible. -/
def step (d : Deposits ι) : Move ι → Option (Deposits ι)
  | .reserve i data =>
    match d.owners i with
    | none =>
      if data ≠ [] ∧ data.length ≤ lengthMask.toNat then
        let work := reserveWithin d.ring.byteSize (total data) reserveAttempts
        some (d.set i (some { data, phase := .reserving work }))
      else
        none
    | some _ => none
  | .write i =>
    match d.owners i with
    | some ⟨data, .reserving (.done (.ok pos)), place⟩ =>
      some (d.set i (some ⟨data, .writing pos (writePayload pos data), place⟩))
    | _ => none
  | .commit i =>
    match d.owners i with
    | some ⟨data, .writing pos (.done ()), place⟩ =>
      let work := Ring.commit pos (UInt64.ofNat data.length)
      some (d.set i (some ⟨data, .committing pos work, place⟩))
    | _ => none
  | .act i =>
    match d.owners i with
    | some deposit =>
      match deposit.phase.next? with
      | some ⟨request, next⟩ => some (d.act i deposit request next)
      | none => none
    | none => none
  | .leave i =>
    match d.owners i with
    | some ⟨_, .reserving (.done (.error _)), _⟩ | some ⟨_, .committing _ (.done ()), _⟩ =>
      some (d.set i none)
    | _ => none
  | .next =>
    match d.reading with
    | none => some { d with reading := some Ring.next }
    | some _ => none
  | .read =>
    match d.reading with
    | some (.request request next) =>
      some { d with
        ring := (d.ring.perform request).2
        reading := some (next (d.ring.perform request).1) }
    | _ => none
  | .deliver =>
    match d.reading with
    | some (.done answer) =>
      some { d with
        reading := none
        delivered := d.delivered ++ answer.toList }
    | _ => none

/-- The moment after any number of moves, if they are possible one after the other. -/
def run (d : Deposits ι) : List (Move ι) → Option (Deposits ι)
  | [] => some d
  | move :: moves =>
    match d.step move with
    | some d => d.run moves
    | none => none

/-! ## What a move does -/

variable {d d' : Deposits ι} {i : ι} {data : List UInt8}

theorem step_reserve (hstep : d.step (.reserve i data) = some d') :
    d.owners i = none ∧ data ≠ [] ∧ data.length ≤ lengthMask.toNat ∧
      d' = d.set i (some
        ⟨data, .reserving (reserveWithin d.ring.byteSize (total data) reserveAttempts), none⟩) := by
  simp only [step] at hstep
  split at hstep
  · split at hstep
    · rename_i hvalid
      exact ⟨‹_›, hvalid.1, hvalid.2, (Option.some.inj hstep).symm⟩
    · cases hstep
  · cases hstep

theorem step_write (hstep : d.step (.write i) = some d') :
    ∃ data pos place, d.owners i = some ⟨data, .reserving (.done (.ok pos)), place⟩ ∧
      d' = d.set i (some ⟨data, .writing pos (writePayload pos data), place⟩) := by
  simp only [step] at hstep
  split at hstep
  · exact ⟨_, _, _, ‹_›, (Option.some.inj hstep).symm⟩
  · cases hstep

theorem step_commit (hstep : d.step (.commit i) = some d') :
    ∃ data pos place, d.owners i = some ⟨data, .writing pos (.done ()), place⟩ ∧
      d' = d.set i (some ⟨data, .committing pos (Ring.commit pos (UInt64.ofNat data.length)),
        place⟩) := by
  simp only [step] at hstep
  split at hstep
  · exact ⟨_, _, _, ‹_›, (Option.some.inj hstep).symm⟩
  · cases hstep

theorem step_act (hstep : d.step (.act i) = some d') :
    ∃ deposit request next, d.owners i = some deposit ∧
      deposit.phase.next? = some ⟨request, next⟩ ∧ d' = d.act i deposit request next := by
  simp only [step] at hstep
  split at hstep
  · split at hstep
    · exact ⟨_, _, _, ‹_›, ‹_›, (Option.some.inj hstep).symm⟩
    · cases hstep
  · cases hstep

theorem step_leave (hstep : d.step (.leave i) = some d') :
    ∃ deposit result, d.owners i = some deposit ∧ deposit.rest = .done result ∧
      d' = d.set i none := by
  simp only [step] at hstep
  split at hstep
  · exact ⟨_, _, ‹_›, rfl, (Option.some.inj hstep).symm⟩
  · exact ⟨_, .ok (), ‹_›, rfl, (Option.some.inj hstep).symm⟩
  · cases hstep

theorem step_next (hstep : d.step .next = some d') :
    d.reading = none ∧ d' = { d with reading := some Ring.next } := by
  simp only [step] at hstep
  split at hstep
  · exact ⟨‹_›, (Option.some.inj hstep).symm⟩
  · cases hstep

theorem step_read (hstep : d.step .read = some d') :
    ∃ request next, d.reading = some (.request request next) ∧
      d' = { d with
        ring := (d.ring.perform request).2
        reading := some (next (d.ring.perform request).1) } := by
  simp only [step] at hstep
  split at hstep
  · exact ⟨_, _, ‹_›, (Option.some.inj hstep).symm⟩
  · cases hstep

theorem step_deliver (hstep : d.step .deliver = some d') :
    ∃ answer, d.reading = some (.done answer) ∧
      d' = { d with
        reading := none
        delivered := d.delivered ++ answer.toList } := by
  simp only [step] at hstep
  split at hstep
  · exact ⟨_, ‹_›, (Option.some.inj hstep).symm⟩
  · cases hstep

theorem run_cons (move : Move ι) (moves : List (Move ι)) :
    d.run (move :: moves) = some d' ↔ ∃ t, d.step move = some t ∧ t.run moves = some d' := by
  rw [run]
  cases hstep : d.step move <;> simp

/-- Only a request of an owner is noted in the history. -/
theorem framed_le_step {move : Move ι} (hstep : d.step move = some d') :
    framed d.log ≤ framed d'.log := by
  cases move with
  | reserve i data =>
    obtain ⟨_, _, _, rfl⟩ := step_reserve hstep
    exact Nat.le_refl _
  | write i =>
    obtain ⟨_, _, _, _, rfl⟩ := step_write hstep
    exact Nat.le_refl _
  | commit i =>
    obtain ⟨_, _, _, _, rfl⟩ := step_commit hstep
    exact Nat.le_refl _
  | act i =>
    obtain ⟨deposit, request, _, _, _, rfl⟩ := step_act hstep
    exact Traffic.framed_le_record deposit.call d.log request _
  | leave i =>
    obtain ⟨_, _, _, _, rfl⟩ := step_leave hstep
    exact Nat.le_refl _
  | next =>
    obtain ⟨_, rfl⟩ := step_next hstep
    exact Nat.le_refl _
  | read =>
    obtain ⟨_, _, _, rfl⟩ := step_read hstep
    exact Nat.le_refl _
  | deliver =>
    obtain ⟨_, _, rfl⟩ := step_deliver hstep
    exact Nat.le_refl _

theorem framed_le_run {moves : List (Move ι)} (hrun : d.run moves = some d') :
    framed d.log ≤ framed d'.log := by
  induction moves generalizing d with
  | nil =>
    cases hrun
    exact Nat.le_refl _
  | cons move moves ih =>
    obtain ⟨t, hstep, hrun'⟩ := (run_cons move moves).mp hrun
    exact Nat.le_trans (framed_le_step hstep) (ih hrun')

end Deposits

/-! ## Payloads that are too long for the ring -/

namespace Deposit

/-- An owner that tries to reserve more room than the ring has. -/
inductive Vain (ring : Ring) : Deposit → Prop
  | arriving {data : List UInt8} (hlarge : ring.byteSize.toNat < footprint data.length)
      (hlength : data.length ≤ lengthMask.toNat) :
    Vain ring ⟨data, .reserving (reserveWithin ring.byteSize (total data) reserveAttempts), none⟩
  | measuring {data : List UInt8} {head : UInt64} (more : Nat)
      (hlarge : ring.byteSize.toNat < footprint data.length)
      (hlength : data.length ≤ lengthMask.toNat)
      (hhead : head.toNat ≤ ring.producerPos.toNat) :
    Vain ring ⟨data, .reserving (reserveFrom ring.byteSize (total data) (more + 1) head), none⟩
  | refused {data : List UInt8} :
    Vain ring ⟨data, .reserving (.done (.error .full)), none⟩

variable {ring ring' : Ring} {deposit : Deposit} {request : Request}
  {next : request.Reply → Phase} {log : List Reservation} {passed : Nat} {gone : Nat → Prop}

theorem Vain.mono (vain : deposit.Vain ring) (hbyteSize : ring'.byteSize = ring.byteSize)
    (hproducer : ring.producerPos.toNat ≤ ring'.producerPos.toNat) : deposit.Vain ring' := by
  cases vain with
  | arriving hlarge hlength => exact hbyteSize ▸ .arriving (hbyteSize ▸ hlarge) hlength
  | measuring more hlarge hlength hhead =>
    exact hbyteSize ▸ .measuring more (hbyteSize ▸ hlarge) hlength (Nat.le_trans hhead hproducer)
  | refused => exact .refused

/-- There is never room for a record that is longer than the ring. -/
theorem full_of_large (layout : Layout ring log passed gone) {data : List UInt8}
    (hlarge : ring.byteSize.toNat < footprint data.length)
    (hlength : data.length ≤ lengthMask.toNat) {head : UInt64}
    (hhead : head.toNat ≤ ring.producerPos.toNat) :
    distance head ring.consumerPos + total data > ring.byteSize := by
  have hmask : lengthMask.toNat = 2 ^ 32 - 1 := rfl
  have htotal : (total data).toNat = footprint data.length := toNat_recordLength_ofNat hlength
  have hlt : footprint data.length < 2 ^ 63 := by
    rw [footprint, wordsFor]
    omega
  rw [gt_iff_lt, UInt64.lt_iff_toNat_lt,
    layout.toNat_distance_add hhead (by rw [htotal]; exact hlt), htotal]
  omega

/-- A request that is made in vain changes nothing. -/
theorem Vain.act (vain : deposit.Vain ring) (layout : Layout ring log passed gone)
    (hnext : deposit.phase.next? = some ⟨request, next⟩) :
    (ring.perform request).2 = ring ∧
      deposit.call.record log request (ring.perform request).1 = (log, deposit.place) ∧
      Vain ring { deposit with phase := next (ring.perform request).1 } := by
  cases vain with
  | @arriving data hlarge hlength =>
    cases hnext
    exact ⟨rfl, rfl, .measuring (reserveAttempts - 1) hlarge hlength (Nat.le_refl _)⟩
  | @measuring data head more hlarge hlength hhead =>
    rw [reserveFrom_succ] at hnext
    cases hnext
    have hfull := full_of_large layout hlarge hlength hhead
    refine ⟨rfl, rfl, ?_⟩
    simp only [perform, Access.bind_done, if_pos hfull]
    exact .refused
  | refused => cases hnext

end Deposit

namespace Deposits

variable {ι : Type} [DecidableEq ι] {d d' : Deposits ι} {s s' : Traffic ι} {i : ι}
  {reading : Reading}

/-! ## The traffic behind it -/

/-- An owner and the call of `output` that does the same. -/
inductive Shadow (ring : Ring) : Option Deposit → Option Call → Prop
  | absent : Shadow ring none none
  | call (deposit : Deposit) : Shadow ring (some deposit) (some deposit.call)
  /-- `output` would have turned the payload away. -/
  | vain {deposit : Deposit} (vain : deposit.Vain ring) : Shadow ring (some deposit) none

/-- Owners and calls of `output` that do the same to the same ring. -/
structure Mirror (d : Deposits ι) (s : Traffic ι) : Prop where
  ring_eq : s.ring = d.ring
  reading_eq : s.reading = d.reading
  log_eq : s.log = d.log
  delivered_eq : s.delivered = d.delivered
  shadow : ∀ i, Shadow d.ring (d.owners i) (s.calls i)

section Shadow

variable {ring ring' : Ring} {deposit : Option Deposit} {call : Option Call}

theorem Shadow.mono (shadow : Shadow ring deposit call)
    (hbyteSize : ring'.byteSize = ring.byteSize)
    (hproducer : ring.producerPos.toNat ≤ ring'.producerPos.toNat) :
    Shadow ring' deposit call := by
  cases shadow with
  | absent => exact .absent
  | call deposit => exact .call deposit
  | vain vain => exact .vain (vain.mono hbyteSize hproducer)

theorem shadow_update {owners : ι → Option Deposit} {calls : ι → Option Call}
    (shadow : ∀ j, Shadow ring (owners j) (calls j)) (hself : Shadow ring deposit call) (j : ι) :
    Shadow ring (Function.update owners i deposit j) (Function.update calls i call j) := by
  by_cases hji : j = i
  · subst hji
    simp only [Function.update_self]
    exact hself
  · simp only [Function.update_of_ne hji]
    exact shadow j

end Shadow

/-- An owner goes on without a request, and the call behind it stays where it is. -/
theorem Mirror.set (mirror : Mirror d s) {deposit : Option Deposit}
    (hself : Shadow d.ring deposit (s.calls i)) : Mirror (d.set i deposit) s where
  ring_eq := mirror.ring_eq
  reading_eq := mirror.reading_eq
  log_eq := mirror.log_eq
  delivered_eq := mirror.delivered_eq
  shadow j := by
    have hupdate := shadow_update (i := i) mirror.shadow hself j
    rw [Function.update_eq_self] at hupdate
    exact hupdate

/-- An owner goes on without a request, and so does the call behind it. -/
theorem Mirror.set_both (mirror : Mirror d s) {deposit : Option Deposit} {call : Option Call}
    (hself : Shadow d.ring deposit call) :
    Mirror (d.set i deposit) { s with calls := Function.update s.calls i call } where
  ring_eq := mirror.ring_eq
  reading_eq := mirror.reading_eq
  log_eq := mirror.log_eq
  delivered_eq := mirror.delivered_eq
  shadow := shadow_update mirror.shadow hself

/-- The calls behind the owners have come up with them, by one move at most. -/
def Follows (d' : Deposits ι) (s : Traffic ι) : Prop :=
  Mirror d' s ∨ ∃ move s', s.step move = some s' ∧ Mirror d' s'

variable {data : List UInt8}

theorem Mirror.reserve (mirror : Mirror d s) (hstep : d.step (.reserve i data) = some d') :
    Follows d' s := by
  obtain ⟨hnone, hne, hlength, rfl⟩ := step_reserve hstep
  have hself := mirror.shadow i
  rw [hnone] at hself
  cases hcall : s.calls i with
  | some call =>
    rw [hcall] at hself
    cases hself
  | none =>
    -- a call that `output` turns away makes no requests, so there is none in the traffic
    by_cases hlarge : d.ring.byteSize.toNat < footprint data.length
    · refine Or.inl (mirror.set ?_)
      rw [hcall]
      exact .vain (.arriving hlarge hlength)
    · have hdata : Admissible s.ring.byteSize data :=
        ⟨hne, by rw [mirror.ring_eq]; exact Nat.le_of_not_lt hlarge, hlength⟩
      let deposit : Deposit :=
        ⟨data, .reserving (reserveWithin d.ring.byteSize (total data) reserveAttempts), none⟩
      have hwork : output s.ring.byteSize data noWakeup = deposit.rest := by
        rw [output_eq hdata, mirror.ring_eq]
        rfl
      have henter : s.step (.enter i data noWakeup) =
          some { s with calls := Function.update s.calls i (some deposit.call) } := by
        simp only [Traffic.step, hcall, hwork]
        rfl
      exact Or.inr ⟨_, _, henter, mirror.set_both (.call deposit)⟩

theorem Mirror.write (mirror : Mirror d s) (hstep : d.step (.write i) = some d') :
    Follows d' s := by
  obtain ⟨data, pos, place, howner, rfl⟩ := step_write hstep
  have hself := mirror.shadow i
  rw [howner] at hself
  refine Or.inl (mirror.set ?_)
  cases hcall : s.calls i with
  | none =>
    rw [hcall] at hself
    cases hself with
    | vain vain => cases vain
  | some call =>
    rw [hcall] at hself
    cases hself
    exact .call ⟨data, .writing pos (writePayload pos data), place⟩

theorem Mirror.commit (mirror : Mirror d s) (hstep : d.step (.commit i) = some d') :
    Follows d' s := by
  obtain ⟨data, pos, place, howner, rfl⟩ := step_commit hstep
  have hself := mirror.shadow i
  rw [howner] at hself
  refine Or.inl (mirror.set ?_)
  cases hcall : s.calls i with
  | none =>
    rw [hcall] at hself
    cases hself with
    | vain vain => cases vain
  | some call =>
    rw [hcall] at hself
    cases hself
    exact .call ⟨data, .committing pos (Ring.commit pos (UInt64.ofNat data.length)), place⟩

/-- A request of an owner is one of what it has left to do. -/
theorem rest_of_next {deposit : Deposit} {request : Request}
    {next : request.Reply → Phase} (hnext : deposit.phase.next? = some ⟨request, next⟩) :
    deposit.rest = .request request fun reply => { deposit with phase := next reply }.rest := by
  obtain ⟨data, phase, place⟩ := deposit
  cases phase with
  | reserving work | writing pos work | committing pos work =>
    cases work with
    | done result => cases hnext
    | request request next =>
      cases hnext
      rfl

theorem Mirror.act (mirror : Mirror d s) (consistent : s.Consistent reading)
    (hstep : d.step (.act i) = some d') (hbound : framed d'.log < 2 ^ 64) : Follows d' s := by
  obtain ⟨deposit, request, next, howner, hnext, rfl⟩ := step_act hstep
  have hself := mirror.shadow i
  rw [howner] at hself
  cases hcall : s.calls i with
  | none =>
    rw [hcall] at hself
    cases hself with
    | vain vain =>
      have layout := consistent.layout
      rw [mirror.ring_eq, mirror.log_eq] at layout
      -- the request is a load, whose reply is of no use to the owner
      obtain ⟨hring, hrecord, vain'⟩ := vain.act layout hnext
      have hsame : d.act i deposit request next =
          d.set i (some { deposit with phase := next (d.ring.perform request).1 }) := by
        simp only [Deposits.act, hring, hrecord, Deposits.set]
      rw [hsame]
      refine Or.inl (mirror.set ?_)
      rw [hcall]
      exact .vain vain'
  | some call =>
    rw [hcall] at hself
    cases hself
    have hwork : deposit.call.work = _ := rest_of_next hnext
    have hact : s.step (.act i) = some (s.act i deposit.call request fun reply =>
        { deposit with phase := next reply }.rest) := by
      simp only [Traffic.step, hcall, hwork]
    refine Or.inr ⟨_, _, hact, ?_⟩
    obtain ⟨ring, owners, reading', log, delivered⟩ := d
    obtain rfl : s.ring = ring := mirror.ring_eq
    obtain rfl : s.log = log := mirror.log_eq
    obtain ⟨advance, _⟩ :=
      (consistent.writers i _ hcall).act consistent.layout hwork rfl hbound
    obtain ⟨_, beside, _⟩ := advance.beside
    -- owners that try in vain only rely on the producer position not to go back
    exact ⟨rfl, mirror.reading_eq, rfl, mirror.delivered_eq, shadow_update
      (fun j => (mirror.shadow j).mono beside.byteSize_eq beside.producer_le) (.call _)⟩

theorem Mirror.leave (mirror : Mirror d s) (hstep : d.step (.leave i) = some d') :
    Follows d' s := by
  obtain ⟨deposit, result, howner, hrest, rfl⟩ := step_leave hstep
  have hself := mirror.shadow i
  rw [howner] at hself
  cases hcall : s.calls i with
  | none =>
    refine Or.inl (mirror.set ?_)
    rw [hcall]
    exact .absent
  | some call =>
    rw [hcall] at hself
    cases hself
    have hwork : deposit.call.work = .done result := hrest
    have hleave : s.step (.leave i) =
        some { s with calls := Function.update s.calls i none } := by
      simp only [Traffic.step, hcall, hwork]
    exact Or.inr ⟨_, _, hleave, mirror.set_both .absent⟩

theorem Mirror.next (mirror : Mirror d s) (hstep : d.step .next = some d') : Follows d' s := by
  obtain ⟨hreading, rfl⟩ := step_next hstep
  rw [← mirror.reading_eq] at hreading
  have hnext : s.step .next = some { s with reading := some Ring.next } := by
    simp only [Traffic.step, hreading]
  exact Or.inr ⟨_, _, hnext, mirror.ring_eq, rfl, mirror.log_eq, mirror.delivered_eq,
    mirror.shadow⟩

theorem Mirror.read (mirror : Mirror d s) (consistent : s.Consistent reading)
    (hstep : d.step .read = some d') : Follows d' s := by
  obtain ⟨request, next, hreading, rfl⟩ := step_read hstep
  rw [← mirror.reading_eq] at hreading
  have hread : s.step .read = some { s with
      ring := (s.ring.perform request).2
      reading := some (next (s.ring.perform request).1) } := by
    simp only [Traffic.step, hreading]
  refine Or.inr ⟨_, _, hread, ?_⟩
  obtain ⟨ring, owners, reading', log, delivered⟩ := d
  obtain rfl : s.ring = ring := mirror.ring_eq
  obtain ⟨_, _, _, _, hrequest, hperform⟩ :=
    Traffic.step_read_consistent consistent hread
  have beside := (hrequest.advance consistent.layout consistent.reader hperform).beside
  exact ⟨rfl, rfl, mirror.log_eq, mirror.delivered_eq,
    fun j => (mirror.shadow j).mono beside.byteSize_eq beside.producer_le⟩

theorem Mirror.deliver (mirror : Mirror d s) (hstep : d.step .deliver = some d') :
    Follows d' s := by
  obtain ⟨answer, hreading, rfl⟩ := step_deliver hstep
  rw [← mirror.reading_eq] at hreading
  have hdeliver : s.step .deliver = some { s with
      reading := none
      delivered := s.delivered ++ answer.toList
      last := some answer } := by
    simp only [Traffic.step, hreading]
  exact Or.inr ⟨_, _, hdeliver, mirror.ring_eq, rfl, mirror.log_eq,
    congrArg (· ++ answer.toList) mirror.delivered_eq, mirror.shadow⟩

theorem Mirror.step {move : Move ι} (mirror : Mirror d s) (consistent : s.Consistent reading)
    (hstep : d.step move = some d') (hbound : framed d'.log < 2 ^ 64) : Follows d' s := by
  cases move with
  | reserve i data => exact mirror.reserve hstep
  | write i => exact mirror.write hstep
  | commit i => exact mirror.commit hstep
  | act i => exact mirror.act consistent hstep hbound
  | leave i => exact mirror.leave hstep
  | next => exact mirror.next hstep
  | read => exact mirror.read consistent hstep
  | deliver => exact mirror.deliver hstep

/-! ## Runs -/

omit [DecidableEq ι] in
theorem mirror_initial (ring : Ring) : Mirror (initial ι ring) (Traffic.initial ι ring) :=
  ⟨rfl, rfl, rfl, rfl, fun _ => .absent⟩

/-- A run of the owners is one of a consistent traffic, and moves no position back. -/
theorem Mirror.run {moves : List (Move ι)} (mirror : Mirror d s) (consistent : s.Consistent reading)
    (hrun : d.run moves = some d') (hbound : framed d'.log < 2 ^ 64) :
    (∃ s' reading', Mirror d' s' ∧ s'.Consistent reading') ∧
      d.ring.producerPos.toNat ≤ d'.ring.producerPos.toNat ∧
      d.ring.consumerPos.toNat ≤ d'.ring.consumerPos.toNat := by
  induction moves generalizing d s reading with
  | nil =>
    cases hrun
    exact ⟨⟨s, reading, mirror, consistent⟩, Nat.le_refl _, Nat.le_refl _⟩
  | cons move moves ih =>
    obtain ⟨t, hstep, hrun'⟩ := (run_cons move moves).mp hrun
    have hmiddle := Nat.lt_of_le_of_lt (framed_le_run hrun') hbound
    rcases mirror.step consistent hstep hmiddle with mirror' | ⟨_, s₁, hstep', mirror'⟩
    · rw [← mirror.ring_eq, mirror'.ring_eq]
      exact ih mirror' consistent hrun'
    · rw [← mirror'.log_eq] at hmiddle
      obtain ⟨_, consistent'⟩ := Traffic.step_consistent consistent hstep' hmiddle
      obtain ⟨hproducer, hconsumer⟩ := Traffic.positions_le_step consistent hstep' hmiddle
      rw [mirror.ring_eq, mirror'.ring_eq] at hproducer hconsumer
      obtain ⟨hend, hproducer', hconsumer'⟩ := ih mirror' consistent' hrun'
      exact ⟨hend, Nat.le_trans hproducer hproducer', Nat.le_trans hconsumer hconsumer'⟩

end Deposits

end PortKnock.Ring
