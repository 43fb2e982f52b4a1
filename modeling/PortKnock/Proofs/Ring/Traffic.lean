import Mathlib.Logic.Function.Basic
import PortKnock.Proofs.Ring.History

/-!
# Calls that overlap

Any number of writers and the one reader use the ring at the same time.  A
`Traffic` is a moment of that: the ring, and of each call that is under way what
is left to do.  A `Move` takes one of the parties one step further, either into
a call, through one atomic action on the ring, or out of the call with its
answer; a run is any order of such moves.

Along with it goes a history of what has happened.  It has no influence on any
move: the reservations that were won, in the order of the winning swaps, and the
records that the reader has handed out.
-/

namespace PortKnock.Ring

/-- A call of `output` that is under way. -/
structure Call where
  data : List UInt8
  flags : UInt64
  /-- What is left to do. -/
  work : Access (Except Refusal Unit)
  /-- The number of the reservation that the call has won, counted from the first one ever. -/
  place : Option Nat := none

/-- The history and the place of a call after one more of its requests.  A won swap makes a
reservation; storing a word at the position of the reservation stores its header. -/
def Call.record (call : Call) (log : List Reservation) :
    (request : Request) → request.Reply → List Reservation × Option Nat
  | .swapProducer expected _, none =>
    (log ++ [⟨call.data, call.flags, expected, false⟩], some log.length)
  | .storeWord pos _, _ =>
    match call.place with
    | some k =>
      (if log[k]?.map Reservation.pos = some pos then commitAt log k else log, call.place)
    | none => (log, call.place)
  | _, _ => (log, call.place)

/-- All that a request can do to the history. -/
theorem Call.record_eq (call : Call) (log : List Reservation) (request : Request)
    (reply : request.Reply) :
    (call.record log request reply).1 = log ∨
      (∃ r, (call.record log request reply).1 = log ++ [r]) ∨
      ∃ k, (call.record log request reply).1 = commitAt log k := by
  unfold Call.record
  split
  · exact Or.inr (Or.inl ⟨_, rfl⟩)
  · split
    · split
      · exact Or.inr (Or.inr ⟨_, rfl⟩)
      · exact Or.inl rfl
    · exact Or.inl rfl
  · exact Or.inl rfl

/-- Writers with names from `ι` and the reader, at one moment. -/
structure Traffic (ι : Type) where
  ring : Ring
  /-- The call that each of the writers is in. -/
  calls : ι → Option Call
  /-- What is left of the reader's call. -/
  reading : Option (Access (Option (List UInt8)))
  /-- All reservations that were won. -/
  log : List Reservation
  /-- All records that the reader has handed out. -/
  delivered : List (List UInt8)
  /-- The last answer of the reader, if there is one. -/
  last : Option (Option (List UInt8))

/-- What can happen next. -/
inductive Move (ι : Type)
  /-- A writer calls `output`. -/
  | enter (i : ι) (data : List UInt8) (flags : UInt64)
  /-- The call of a writer performs its next request. -/
  | act (i : ι)
  /-- The call of a writer returns. -/
  | leave (i : ι)
  /-- The reader calls `next`. -/
  | next
  /-- The call of the reader performs its next request. -/
  | read
  /-- The call of the reader returns. -/
  | deliver
  deriving DecidableEq, Repr

namespace Traffic

variable {ι : Type} [DecidableEq ι]

/-- Nobody is in a call. -/
def initial (ι : Type) (ring : Ring) : Traffic ι where
  ring
  calls _ := none
  reading := none
  log := []
  delivered := []
  last := none

/-- Writer `i` performs one request. -/
def act (s : Traffic ι) (i : ι) (call : Call) (request : Request)
    (next : request.Reply → Access (Except Refusal Unit)) : Traffic ι :=
  let reply := (s.ring.perform request).1
  let noted := call.record s.log request reply
  { s with
    ring := (s.ring.perform request).2
    log := noted.1
    calls := Function.update s.calls i (some { call with work := next reply, place := noted.2 }) }

/-- The moment after a move, if it is possible. -/
def step (s : Traffic ι) : Move ι → Option (Traffic ι)
  | .enter i data flags =>
    match s.calls i with
    | none =>
      let call : Call := { data, flags, work := output s.ring.byteSize data flags }
      some { s with calls := Function.update s.calls i (some call) }
    | some _ => none
  | .act i =>
    match s.calls i with
    | some call =>
      match call.work with
      | .request request next => some (s.act i call request next)
      | .done _ => none
    | none => none
  | .leave i =>
    match s.calls i with
    | some call =>
      match call.work with
      | .done _ => some { s with calls := Function.update s.calls i none }
      | .request _ _ => none
    | none => none
  | .next =>
    match s.reading with
    | none => some { s with reading := some Ring.next }
    | some _ => none
  | .read =>
    match s.reading with
    | some (.request request next) =>
      some { s with
        ring := (s.ring.perform request).2
        reading := some (next (s.ring.perform request).1) }
    | _ => none
  | .deliver =>
    match s.reading with
    | some (.done answer) =>
      some { s with
        reading := none
        delivered := s.delivered ++ answer.toList
        last := some answer }
    | _ => none

/-- The moment after any number of moves, if they are possible one after the other. -/
def run (s : Traffic ι) : List (Move ι) → Option (Traffic ι)
  | [] => some s
  | move :: moves =>
    match s.step move with
    | some s => s.run moves
    | none => none

/-! ## What a move does -/

variable {s s' : Traffic ι} {i : ι}

theorem step_enter {data : List UInt8} {flags : UInt64}
    (hstep : s.step (.enter i data flags) = some s') :
    s.calls i = none ∧
      s' = { s with
        calls := Function.update s.calls i
          (some { data, flags, work := output s.ring.byteSize data flags }) } := by
  simp only [step] at hstep
  split at hstep
  · exact ⟨‹_›, (Option.some.inj hstep).symm⟩
  · cases hstep

theorem step_act (hstep : s.step (.act i) = some s') :
    ∃ call request next, s.calls i = some call ∧ call.work = .request request next ∧
      s' = s.act i call request next := by
  simp only [step] at hstep
  split at hstep
  · split at hstep
    · exact ⟨_, _, _, ‹_›, ‹_›, (Option.some.inj hstep).symm⟩
    · cases hstep
  · cases hstep

theorem step_leave (hstep : s.step (.leave i) = some s') :
    ∃ call result, s.calls i = some call ∧ call.work = .done result ∧
      s' = { s with calls := Function.update s.calls i none } := by
  simp only [step] at hstep
  split at hstep
  · split at hstep
    · exact ⟨_, _, ‹_›, ‹_›, (Option.some.inj hstep).symm⟩
    · cases hstep
  · cases hstep

theorem step_next (hstep : s.step .next = some s') :
    s.reading = none ∧ s' = { s with reading := some Ring.next } := by
  simp only [step] at hstep
  split at hstep
  · exact ⟨‹_›, (Option.some.inj hstep).symm⟩
  · cases hstep

theorem step_read (hstep : s.step .read = some s') :
    ∃ request next, s.reading = some (.request request next) ∧
      s' = { s with
        ring := (s.ring.perform request).2
        reading := some (next (s.ring.perform request).1) } := by
  simp only [step] at hstep
  split at hstep
  · exact ⟨_, _, ‹_›, (Option.some.inj hstep).symm⟩
  · cases hstep

theorem step_deliver (hstep : s.step .deliver = some s') :
    ∃ answer, s.reading = some (.done answer) ∧
      s' = { s with
        reading := none
        delivered := s.delivered ++ answer.toList
        last := some answer } := by
  simp only [step] at hstep
  split at hstep
  · exact ⟨_, ‹_›, (Option.some.inj hstep).symm⟩
  · cases hstep

/-! ## Runs -/

theorem run_cons (move : Move ι) (moves : List (Move ι)) :
    s.run (move :: moves) = some s' ↔ ∃ t, s.step move = some t ∧ t.run moves = some s' := by
  rw [run]
  cases hstep : s.step move <;> simp

/-! ## The history only grows -/

omit [DecidableEq ι] in
/-- A request adds one reservation at most. -/
theorem framed_le_record (call : Call) (log : List Reservation) (request : Request)
    (reply : request.Reply) : framed log ≤ framed (call.record log request reply).1 := by
  rcases call.record_eq log request reply with hlog | ⟨r, hlog⟩ | ⟨k, hlog⟩
  · exact Nat.le_of_eq (by rw [hlog])
  · rw [hlog, framed_concat]
    exact Nat.le_add_right _ _
  · exact Nat.le_of_eq (by rw [hlog, framed_commitAt])

/-- Only a request of a writer is noted in the history. -/
theorem log_of_step {move : Move ι} (hstep : s.step move = some s') :
    s'.log = s.log ∨ ∃ (call : Call) (request : Request),
      s'.log = (call.record s.log request (s.ring.perform request).1).1 := by
  cases move with
  | enter i data flags =>
    obtain ⟨_, rfl⟩ := step_enter hstep
    exact Or.inl rfl
  | act i =>
    obtain ⟨call, request, next, _, _, rfl⟩ := step_act hstep
    exact Or.inr ⟨call, request, rfl⟩
  | leave i =>
    obtain ⟨_, _, _, _, rfl⟩ := step_leave hstep
    exact Or.inl rfl
  | next =>
    obtain ⟨_, rfl⟩ := step_next hstep
    exact Or.inl rfl
  | read =>
    obtain ⟨_, _, _, rfl⟩ := step_read hstep
    exact Or.inl rfl
  | deliver =>
    obtain ⟨_, _, rfl⟩ := step_deliver hstep
    exact Or.inl rfl

theorem framed_le_step {move : Move ι} (hstep : s.step move = some s') :
    framed s.log ≤ framed s'.log := by
  rcases log_of_step hstep with hsame | ⟨call, request, hnoted⟩
  · exact Nat.le_of_eq (by rw [hsame])
  · rw [hnoted]
    exact framed_le_record call s.log request _

theorem framed_le_run {moves : List (Move ι)} (hrun : s.run moves = some s') :
    framed s.log ≤ framed s'.log := by
  induction moves generalizing s with
  | nil =>
    cases hrun
    exact Nat.le_refl _
  | cons move moves ih =>
    obtain ⟨t, hstep, hrun'⟩ := (run_cons move moves).mp hrun
    exact Nat.le_trans (framed_le_step hstep) (ih hrun')

/-- What every possible move keeps holds after a run that does not let the positions run over. -/
theorem run_induction {motive : Traffic ι → Prop} (hinit : motive s)
    (hkept : ∀ {t t' move}, motive t → t.step move = some t' → framed t'.log < 2 ^ 64 →
      motive t')
    {moves : List (Move ι)} (hrun : s.run moves = some s') (hbound : framed s'.log < 2 ^ 64) :
    motive s' := by
  induction moves generalizing s with
  | nil =>
    cases hrun
    exact hinit
  | cons move moves ih =>
    obtain ⟨t, hstep, hrun'⟩ := (run_cons move moves).mp hrun
    have hmiddle := Nat.lt_of_le_of_lt (framed_le_run hrun') hbound
    exact ih (hkept hinit hstep hmiddle) hrun'

end Traffic

end PortKnock.Ring
