import Mathlib.Data.List.Basic
import Mathlib.Data.List.Induction
import Mathlib.Data.Nat.Bitwise
import PortKnock.Proofs.Ring.Fifo

/-!
# When the reader is ready

Readiness remembers that a wakeup was asked for, and forgets it when the reader
finds nothing.  For calls that do not overlap, this file says from the calls and
their answers alone when it is set: some record was published with a wakeup, and
every `next` since then has found a record.

## Strategy

Whatever a call does to the ring is a matter of the requests it makes
(`Access.requests`), and only two kinds of them change readiness.  So there is
one lemma for each of the two about which calls make such a request
(`signal_mem_requestsOf`, `reset_mem_requestsOf`), which hold of any ring, in
whatever state it is.

A writer that leaves the wakeup to the ring compares two positions.  That they
are equal if and only if no record is queued takes the theory of the layout
(`caughtUp_after_iff`); it is the only place where positions that have run over
would make a difference, and so the only one that has to keep away from them.
-/

namespace PortKnock.Ring

namespace Access

variable {α β : Type}

/-! ## The requests of a run -/

/-- The requests that a run of `work` makes, in their order. -/
def requests : Access α → Ring → List Request
  | done _, _ => []
  | request q next, ring => q :: (next (ring.perform q).1).requests (ring.perform q).2

@[simp] theorem requests_pure (result : α) (ring : Ring) :
    (pure result : Access α).requests ring = [] := rfl

@[simp] theorem requests_bind (work : Access α) (then_ : α → Access β) (ring : Ring) :
    (work >>= then_).requests ring =
      work.requests ring ++ (then_ (work.run ring).1).requests (work.run ring).2 := by
  show (work.bind then_).requests ring = _
  induction work generalizing ring with
  | done result => rfl
  | request q next ih => simp [Access.bind, requests, run, ih]

@[simp] theorem requests_map (f : α → β) (work : Access α) (ring : Ring) :
    (f <$> work).requests ring = work.requests ring := by
  calc
    (f <$> work).requests ring = work.requests ring ++ [] :=
      requests_bind work (fun result => pure (f result)) ring
    _ = work.requests ring := List.append_nil _

@[simp] theorem requests_loadProducer (ring : Ring) :
    loadProducer.requests ring = [.loadProducer] := rfl

@[simp] theorem requests_loadConsumer (ring : Ring) :
    loadConsumer.requests ring = [.loadConsumer] := rfl

@[simp] theorem requests_swapProducer (expected desired : UInt64) (ring : Ring) :
    (swapProducer expected desired).requests ring = [.swapProducer expected desired] := rfl

@[simp] theorem requests_loadWord (pos : UInt64) (ring : Ring) :
    (loadWord pos).requests ring = [.loadWord pos] := rfl

@[simp] theorem requests_storeWord (pos value : UInt64) (ring : Ring) :
    (storeWord pos value).requests ring = [.storeWord pos value] := rfl

@[simp] theorem requests_storeConsumer (pos : UInt64) (ring : Ring) :
    (storeConsumer pos).requests ring = [.storeConsumer pos] := rfl

@[simp] theorem requests_signal (ring : Ring) : signal.requests ring = [.signal] := rfl

@[simp] theorem requests_reset (ring : Ring) : reset.requests ring = [.reset] := rfl

/-- All but two kinds of requests leave readiness alone. -/
theorem ready_perform {q : Request} (hsignal : q ≠ .signal) (hreset : q ≠ .reset) (ring : Ring) :
    (ring.perform q).2.ready = ring.ready := by
  cases q with
  | signal => exact absurd rfl hsignal
  | reset => exact absurd rfl hreset
  | swapProducer expected desired =>
    rw [perform]
    split <;> rfl
  | _ => rfl

/-- What a run does to readiness, if it asks for wakeups or takes them back, but not both. -/
theorem ready_run {work : Access α} {ring : Ring}
    (hone : .signal ∉ work.requests ring ∨ .reset ∉ work.requests ring) :
    (work.run ring).2.ready = true ↔
      .signal ∈ work.requests ring ∨ ring.ready = true ∧ .reset ∉ work.requests ring := by
  induction work generalizing ring with
  | done result => simp [run, requests]
  | request q next ih =>
    simp only [requests, List.mem_cons, not_or] at hone ⊢
    rw [run, ih _ (hone.imp And.right And.right)]
    by_cases hsignal : q = .signal
    · -- nothing takes this wakeup back later on, since the run asks for one
      subst hsignal
      have hready : (ring.perform .signal).2.ready = true := rfl
      have hreset := (hone.resolve_left fun h => h.1 rfl).2
      simp [hready, hreset]
    by_cases hreset : q = .reset
    · subst hreset
      have hready : (ring.perform .reset).2.ready = false := rfl
      simp [hready]
    · rw [ready_perform hsignal hreset]
      simp [Ne.symm hsignal, Ne.symm hreset]

end Access

open Octets Access

/-! ## Requests that concern neither readiness nor the reader -/

/-- A request that leaves readiness and the position of the reader alone. -/
def Request.Plain : Request → Prop
  | .signal | .reset | .storeConsumer _ => False
  | _ => True

/-- A run that makes only such requests. -/
def Access.Plain {α : Type} (work : Access α) (ring : Ring) : Prop :=
  ∀ q ∈ work.requests ring, q.Plain

namespace Access.Plain

variable {α β : Type} {work : Access α} {ring : Ring}

theorem signal_not_mem (plain : work.Plain ring) : .signal ∉ work.requests ring :=
  plain .signal

theorem reset_not_mem (plain : work.Plain ring) : .reset ∉ work.requests ring :=
  plain .reset

theorem bind {then_ : α → Access β} (plain : work.Plain ring)
    (hthen : (then_ (work.run ring).1).Plain (work.run ring).2) :
    (work >>= then_).Plain ring := by
  intro q hq
  rw [requests_bind, List.mem_append] at hq
  exact hq.elim (plain q) (hthen q)

theorem consumerPos_run (plain : work.Plain ring) :
    (work.run ring).2.consumerPos = ring.consumerPos := by
  induction work generalizing ring with
  | done result => rfl
  | request q next ih =>
    have hfirst : (ring.perform q).2.consumerPos = ring.consumerPos := by
      have hq : q.Plain := plain q (List.mem_cons_self ..)
      cases q with
      | storeConsumer pos => exact absurd hq id
      | swapProducer expected desired =>
        rw [perform]
        split <;> rfl
      | _ => rfl
    have hrest : (next (ring.perform q).1).Plain (ring.perform q).2 :=
      fun q' hq' => plain q' (List.mem_cons_of_mem q hq')
    rw [run, ih _ hrest, hfirst]

end Access.Plain

theorem plain_storeWords (words : List UInt64) (pos : UInt64) (ring : Ring) :
    (storeWords pos words).Plain ring := by
  induction words generalizing pos ring with
  | nil => simp [Access.Plain, storeWords]
  | cons word rest ih =>
    refine Access.Plain.bind ?_ (ih _ _)
    simp [Access.Plain, Request.Plain]

theorem plain_takeWords (stop : UInt64) (fuel : Nat) (pos : UInt64) (taken : List UInt64)
    (ring : Ring) : (takeWords stop fuel pos taken).Plain ring := by
  induction fuel generalizing pos taken ring with
  | zero => simp [Access.Plain, takeWords_zero]
  | succ fuel ih =>
    rw [takeWords_succ]
    split
    · refine Access.Plain.bind ?_ (Access.Plain.bind ?_ (ih _ _ _))
      · simp [Access.Plain, Request.Plain]
      · simp [Access.Plain, Request.Plain]
    · simp [Access.Plain]

/-- With nobody else around, the first swap is won, so the position last seen is the one that is
reserved. -/
theorem reserveWithin_cases (byteSize total : UInt64) (attempts : Nat) (ring : Ring) :
    (reserveWithin byteSize total (attempts + 1)).Plain ring ∧
      (((reserveWithin byteSize total (attempts + 1)).run ring).1 = .error .full ∨
        ((reserveWithin byteSize total (attempts + 1)).run ring).1 = .ok ring.producerPos) := by
  by_cases hfull : distance ring.producerPos ring.consumerPos + total > byteSize
  · simp [Access.Plain, reserveWithin_eq, reserveFrom_succ, hfull, Request.Plain]
  · simp [Access.Plain, reserveWithin_eq, reserveFrom_succ, hfull, Request.Plain]

/-! ## Writing -/

theorem signal_mem_requests_notify (pos flags : UInt64) (ring : Ring) :
    .signal ∈ (notify pos flags).requests ring ↔
      wakes flags (ring.consumerPos == pos) = true := by
  unfold notify wakes
  by_cases hforce : flags &&& forceWakeup != 0
  · simp [hforce]
  · by_cases hquiet : flags &&& noWakeup == 0
    · by_cases hcaughtUp : ring.consumerPos = pos
      · simp [hforce, hquiet, hcaughtUp]
      · simp [hforce, hquiet, hcaughtUp]
    · simp [hforce, hquiet]

theorem reset_not_mem_requests_notify (pos flags : UInt64) (ring : Ring) :
    .reset ∉ (notify pos flags).requests ring := by
  unfold notify
  split
  · simp
  split
  · rw [requests_bind, List.mem_append, not_or]
    refine ⟨by simp, ?_⟩
    split <;> simp
  · simp

/-- What `output` does, if there is room, before it decides about a wakeup. -/
def beforeNotify (byteSize pos : UInt64) (data : List UInt8) : Access Unit := do
  let _ ← reserveWithin byteSize (total data) reserveAttempts
  writePayload pos data
  commit pos (UInt64.ofNat data.length)

theorem plain_beforeNotify (byteSize pos : UInt64) (data : List UInt8) (ring : Ring) :
    (beforeNotify byteSize pos data).Plain ring := by
  refine (reserveWithin_cases byteSize (total data) 255 ring).1.bind (Access.Plain.bind ?_ ?_)
  · rw [writePayload_eq, storeOctets_eq]
    exact plain_storeWords _ _ _
  · simp [Access.Plain, commit, Request.Plain]

/-- A writer fails without a word about readiness, or gets as far as deciding about a wakeup. -/
theorem output_cases (ring : Ring) (data : List UInt8) (flags : UInt64) :
    (∃ refusal, ((output ring.byteSize data flags).run ring).1 = .error refusal ∧
      (output ring.byteSize data flags).Plain ring) ∨
    ((output ring.byteSize data flags).run ring).1 = .ok () ∧
      (output ring.byteSize data flags).requests ring =
        (beforeNotify ring.byteSize ring.producerPos data).requests ring ++
          (notify ring.producerPos flags).requests
            ((beforeNotify ring.byteSize ring.producerPos data).run ring).2 := by
  by_cases hempty : data = []
  · subst hempty
    exact Or.inl ⟨.empty, rfl, by simp [Access.Plain, output_nil]⟩
  by_cases hlarge : ring.byteSize.toNat < footprint data.length ∨ lengthMask.toNat < data.length
  · rw [output_of_tooLarge hempty flags hlarge]
    exact Or.inl ⟨.tooLarge, rfl, by simp [Access.Plain]⟩
  have hdata : Admissible ring.byteSize data :=
    ⟨hempty, Nat.le_of_not_lt (mt Or.inl hlarge), Nat.le_of_not_lt (mt Or.inr hlarge)⟩
  -- an admissible payload is refused for want of room only
  obtain ⟨hplain, hresult⟩ := reserveWithin_cases ring.byteSize (total data) 255 ring
  rw [output_eq hdata, beforeNotify, reserveAttempts]
  rcases hresult with hfull | hwon
  · refine Or.inl ⟨.full, by rw [run_bind, hfull]; rfl, hplain.bind ?_⟩
    rw [hfull]
    simp [Access.Plain, afterReserving]
  · refine Or.inr ⟨by rw [run_bind, hwon]; simp [afterReserving], ?_⟩
    simp [hwon, afterReserving]

theorem signal_mem_requests_output (ring : Ring) (data : List UInt8) (flags : UInt64) :
    .signal ∈ (output ring.byteSize data flags).requests ring ↔
      ((output ring.byteSize data flags).run ring).1 = .ok () ∧
        wakes flags (ring.consumerPos == ring.producerPos) = true := by
  have hbefore := plain_beforeNotify ring.byteSize ring.producerPos data ring
  rcases output_cases ring data flags with ⟨refusal, hresult, hplain⟩ | ⟨hresult, heq⟩
  · simp [hresult, hplain.signal_not_mem]
  · simp [hresult, heq, hbefore.signal_not_mem, signal_mem_requests_notify,
      hbefore.consumerPos_run]

theorem reset_not_mem_requests_output (ring : Ring) (data : List UInt8) (flags : UInt64) :
    .reset ∉ (output ring.byteSize data flags).requests ring := by
  rcases output_cases ring data flags with ⟨_, _, hplain⟩ | ⟨_, heq⟩
  · exact hplain.reset_not_mem
  · rw [heq, List.mem_append, not_or]
    exact ⟨(plain_beforeNotify _ _ _ _).reset_not_mem, reset_not_mem_requests_notify _ _ _⟩

/-! ## Reading -/

theorem not_mem_requests_takeRecord (tail header : UInt64) (ring : Ring) :
    .signal ∉ (takeRecord tail header).requests ring ∧
      .reset ∉ (takeRecord tail header).requests ring := by
  have hwords := fun stop fuel pos => plain_takeWords stop fuel pos [] ring
  constructor
  · simp [takeRecord_eq, (hwords _ _ _).signal_not_mem]
  · simp [takeRecord_eq, (hwords _ _ _).reset_not_mem]

/-- The reader takes wakeups back if and only if it finds nothing: in between its two looks,
nobody else writes. -/
theorem next_requests (ring : Ring) :
    .signal ∉ next.requests ring ∧ (.reset ∈ next.requests ring ↔ (next.run ring).1 = none) := by
  have htaken := not_mem_requests_takeRecord ring.consumerPos (ring.word ring.consumerPos) ring
  by_cases hcommitted : isCommitted (ring.word ring.consumerPos) = true
  · simp [next_eq, hcommitted, htaken]
  · have hagain :
        isCommitted (({ ring with ready := false } : Ring).word ring.consumerPos) ≠ true :=
      hcommitted
    simp [next_eq, hcommitted, hagain]

/-! ## Calls -/

/-- The requests that a whole call makes. -/
def requestsOf (ring : Ring) : Op → List Request
  | .output data flags => (output ring.byteSize data flags).requests ring
  | .next => next.requests ring

/-- A call asks for a wakeup if it has published a record, and depending on its flags. -/
theorem signal_mem_requestsOf {ring : Ring} {op : Op} :
    .signal ∈ ring.requestsOf op ↔
      ∃ data flags, op = .output data flags ∧ (ring.call op).1 = .written (.ok ()) ∧
        wakes flags (ring.consumerPos == ring.producerPos) = true := by
  cases op with
  | output data flags =>
    rw [requestsOf, signal_mem_requests_output]
    simp [call]
  | next => simp [requestsOf, (next_requests ring).1]

/-- A call takes wakeups back if it is one of the reader that finds nothing. -/
theorem reset_mem_requestsOf {ring : Ring} {op : Op} :
    .reset ∈ ring.requestsOf op ↔ (op, (ring.call op).1) = (.next, .read none) := by
  cases op with
  | output data flags => simp [requestsOf, reset_not_mem_requests_output]
  | next =>
    rw [requestsOf, (next_requests ring).2]
    simp [call]

theorem ready_call (ring : Ring) (op : Op) :
    (ring.call op).2.ready = true ↔
      .signal ∈ ring.requestsOf op ∨
        ring.ready = true ∧ (op, (ring.call op).1) ≠ (.next, .read none) := by
  rw [Ne, ← reset_mem_requestsOf]
  cases op with
  | output data flags => exact ready_run (Or.inr (reset_not_mem_requests_output ring data flags))
  | next => exact ready_run (Or.inl (next_requests ring).1)

/-! ### Flags, bit by bit -/

/-- Flags that leave the wakeup to the ring: they neither forbid it nor force it. -/
def Adaptive (flags : UInt64) : Prop :=
  flags.toNat.testBit 0 = false ∧ flags.toNat.testBit 1 = false

/-- A mask of one bit tests for it. -/
theorem and_eq_zero_iff_testBit {mask : UInt64} {i : Nat} (hmask : mask.toNat = 2 ^ i)
    (flags : UInt64) : flags &&& mask = 0 ↔ flags.toNat.testBit i = false := by
  rw [← UInt64.toNat_inj, UInt64.toNat_and, hmask, Nat.and_two_pow, UInt64.toNat_zero,
    Nat.mul_eq_zero, Bool.toNat_eq_zero]
  exact or_iff_left (Nat.two_pow_pos i).ne'

theorem wakes_iff (flags : UInt64) (caughtUp : Bool) :
    wakes flags caughtUp = true ↔
      flags.toNat.testBit 1 = true ∨ Adaptive flags ∧ caughtUp = true := by
  have htwo : forceWakeup.toNat = 2 ^ 1 := rfl
  have hone : noWakeup.toNat = 2 ^ 0 := rfl
  have hforce : (flags &&& forceWakeup != 0) = flags.toNat.testBit 1 := by
    rw [Bool.eq_iff_iff, bne_iff_ne, Ne, and_eq_zero_iff_testBit htwo, Bool.not_eq_false]
  have hquiet : (flags &&& noWakeup == 0) = !flags.toNat.testBit 0 := by
    rw [Bool.eq_iff_iff, beq_iff_eq, and_eq_zero_iff_testBit hone, Bool.not_eq_true']
  rw [wakes, hforce, hquiet, Adaptive]
  cases flags.toNat.testBit 1 <;> simp

/-! ## Calls one after the other -/

/-- The ring after calls that are made one after the other. -/
def after (ring : Ring) : List Op → Ring
  | [] => ring
  | op :: ops => (ring.call op).2.after ops

/-- Calls that are made one after the other, each with its answer. -/
def exchanges (ring : Ring) (ops : List Op) : List (Op × Answer) :=
  ops.zip (ring.answers ops)

theorem after_concat (ring : Ring) (ops : List Op) (op : Op) :
    ring.after (ops ++ [op]) = ((ring.after ops).call op).2 := by
  induction ops generalizing ring with
  | nil => rfl
  | cons first rest ih => exact ih _

theorem answers_concat (ring : Ring) (ops : List Op) (op : Op) :
    ring.answers (ops ++ [op]) = ring.answers ops ++ [((ring.after ops).call op).1] := by
  induction ops generalizing ring with
  | nil => rfl
  | cons first rest ih => exact congrArg (_ :: ·) (ih _)

theorem length_answers (ring : Ring) (ops : List Op) : (ring.answers ops).length = ops.length := by
  induction ops generalizing ring with
  | nil => rfl
  | cons first rest ih => exact congrArg (· + 1) (ih _)

theorem exchanges_concat (ring : Ring) (ops : List Op) (op : Op) :
    ring.exchanges (ops ++ [op]) =
      ring.exchanges ops ++ [(op, ((ring.after ops).call op).1)] := by
  rw [exchanges, answers_concat, List.zip_append (length_answers ring ops).symm]
  rfl

theorem published_concat (ring : Ring) (ops : List Op) (op : Op) :
    published (ops ++ [op]) (ring.answers (ops ++ [op])) =
      published ops (ring.answers ops) + publishedBy op ((ring.after ops).call op).1 := by
  rw [answers_concat, published, List.zipWith_append (length_answers ring ops).symm,
    List.sum_append]
  rfl

/-- More calls never take back what has been published. -/
theorem published_mono {ring : Ring} {past ops : List Op} (hpast : past <+: ops) :
    published past (ring.answers past) ≤ published ops (ring.answers ops) := by
  obtain ⟨rest, rfl⟩ := hpast
  induction rest using List.reverseRecOn with
  | nil => rw [List.append_nil]
  | append_singleton rest op ih =>
    rw [← List.append_assoc, published_concat]
    exact Nat.le_add_right_of_le ih

/-! ## What is queued -/

/-- The records that are queued after one more call with a given answer. -/
def queueAfter (queue : List (List UInt8)) : Op × Answer → List (List UInt8)
  | (.output data _, .written (.ok ())) => queue ++ [data]
  | (.next, .read (some _)) => queue.tail
  | _ => queue

/-- The records that are queued after calls with given answers. -/
def queued (calls : List (Op × Answer)) : List (List UInt8) :=
  calls.foldl queueAfter []

/-- A queue follows from the answers of its calls. -/
theorem queueAfter_of_call {size : Nat} {queue queue' : List (List UInt8)} {op : Op}
    {answer : Answer} (hcall : Fifo.call size queue op = (answer, queue')) :
    queueAfter queue (op, answer) = queue' := by
  cases op with
  | output data flags =>
    rw [Fifo.call] at hcall
    split at hcall
    · cases hcall
      rfl
    split at hcall
    · cases hcall
      rfl
    split at hcall
    all_goals
      cases hcall
      rfl
  | next =>
    cases queue with
    | nil =>
      cases hcall
      rfl
    | cons oldest rest =>
      cases hcall
      rfl

variable {size : UInt64} {ring : Ring}

/-- As long as the positions do not run over, the ring is settled after every call, and what waits
in it are the records that are queued. -/
theorem settled_after (hmake : make size = .ok ring) (ops : List Op)
    (hbound : published ops (ring.answers ops) < 2 ^ 64) :
    ∃ log passed, Settled (ring.after ops) log passed ∧
      framed log = published ops (ring.answers ops) ∧
      waiting log passed = queued (ring.exchanges ops) := by
  induction ops using List.reverseRecOn with
  | nil => exact ⟨[], 0, settled_of_make hmake, rfl, rfl⟩
  | append_singleton ops op ih =>
    rw [published_concat] at hbound ⊢
    obtain ⟨log, passed, settled, hframed, hwaiting⟩ := ih (by omega)
    -- the same call on the queue gives the same answer, and the answer tells the queue
    obtain ⟨log', passed', settled', _, hframed', hcall⟩ :=
      agrees_of_settled settled op (by omega)
    refine ⟨log', passed', ?_, by omega, ?_⟩
    · rw [after_concat]
      exact settled'
    · calc
        waiting log' passed' =
            queueAfter (waiting log passed) (op, ((ring.after ops).call op).1) :=
          (queueAfter_of_call hcall).symm
        _ = queued (ring.exchanges (ops ++ [op])) := by
          rw [hwaiting, exchanges_concat, queued, queued, List.foldl_concat]

/-- The two positions are equal if and only if no record is queued. -/
theorem caughtUp_after_iff (hmake : make size = .ok ring) (ops : List Op)
    (hbound : published ops (ring.answers ops) < 2 ^ 64) :
    (ring.after ops).consumerPos = (ring.after ops).producerPos ↔
      queued (ring.exchanges ops) = [] := by
  obtain ⟨log, passed, settled, _, hwaiting⟩ := settled_after hmake ops hbound
  have hpassed := settled.layout.passed_le
  rw [settled.layout.consumerPos_eq_producerPos_iff, ← hwaiting, waiting, List.map_eq_nil_iff,
    List.drop_eq_nil_iff]
  omega

/-! ## Readiness -/

/-- A call that wakes the reader, as its answer and the calls before it tell: it has published a
record, and its flags force the wakeup, or leave it to a ring in which no record was queued. -/
inductive Waking (past : List (Op × Answer)) : Op × Answer → Prop
  | forced (data : List UInt8) {flags : UInt64} (hforce : flags.toNat.testBit 1 = true) :
    Waking past (.output data flags, .written (.ok ()))
  | caughtUp (data : List UInt8) {flags : UInt64} (hadaptive : Adaptive flags)
      (hqueue : queued past = []) :
    Waking past (.output data flags, .written (.ok ()))

/-- Some call has woken the reader, and every `next` since then has found a record. -/
def Woken (calls : List (Op × Answer)) : Prop :=
  ∃ past call later, calls = past ++ call :: later ∧ Waking past call ∧
    (.next, .read none) ∉ later

/-- A call that leaves readiness as it is. -/
inductive Silent : Op → Answer → Prop
  | refused (data : List UInt8) (flags : UInt64) (refusal : Refusal) :
    Silent (.output data flags) (.written (.error refusal))
  | quiet (data : List UInt8) {flags : UInt64} (result : Except Refusal Unit)
      (hquiet : flags.toNat.testBit 0 = true) (hforce : flags.toNat.testBit 1 = false) :
    Silent (.output data flags) (.written result)
  | found (record : List UInt8) : Silent .next (.read (some record))

theorem not_woken_nil : ¬ Woken [] := by
  rintro ⟨past, call, later, hsplit, _⟩
  exact absurd hsplit.symm (by simp)

theorem woken_concat {calls : List (Op × Answer)} {call : Op × Answer} :
    Woken (calls ++ [call]) ↔
      Waking calls call ∨ Woken calls ∧ call ≠ (.next, .read none) := by
  constructor
  · -- either the last call is the one that has woken the reader, or it comes after that one
    rintro ⟨past, first, later, hsplit, hwaking, hlater⟩
    rcases List.eq_nil_or_concat' later with rfl | ⟨later, last, rfl⟩
    · obtain ⟨rfl, hlast⟩ := List.append_inj' hsplit rfl
      cases hlast
      exact Or.inl hwaking
    · rw [← List.cons_append, ← List.append_assoc] at hsplit
      obtain ⟨rfl, hlast⟩ := List.append_inj' hsplit rfl
      cases hlast
      rw [List.mem_append, not_or, List.mem_singleton] at hlater
      exact Or.inr ⟨⟨past, first, later, rfl, hwaking, hlater.1⟩, Ne.symm hlater.2⟩
  · rintro (hwaking | ⟨⟨past, first, later, rfl, hwaking, hlater⟩, hcall⟩)
    · exact ⟨calls, call, [], rfl, hwaking, List.not_mem_nil⟩
    · refine ⟨past, first, later ++ [call], by simp, hwaking, ?_⟩
      rw [List.mem_append, not_or, List.mem_singleton]
      exact ⟨hlater, Ne.symm hcall⟩

/-- The calls that ask for a wakeup are the waking ones. -/
theorem signal_mem_requestsOf_after (hmake : make size = .ok ring) (past : List Op) (op : Op)
    (hbound : ∀ data flags, op = .output data flags → Adaptive flags →
      published past (ring.answers past) < 2 ^ 64) :
    .signal ∈ (ring.after past).requestsOf op ↔
      Waking (ring.exchanges past) (op, ((ring.after past).call op).1) := by
  rw [signal_mem_requestsOf]
  constructor
  · rintro ⟨data, flags, rfl, hanswer, hwakes⟩
    rw [hanswer]
    rcases (wakes_iff _ _).mp hwakes with hforce | ⟨hadaptive, hcaughtUp⟩
    · exact .forced data hforce
    · have hlt := hbound data flags rfl hadaptive
      exact .caughtUp data hadaptive
        ((caughtUp_after_iff hmake past hlt).mp (beq_iff_eq.mp hcaughtUp))
  · generalize hanswer : ((ring.after past).call op).1 = answer
    intro hwaking
    cases hwaking with
    | @forced data flags hforce =>
      exact ⟨data, flags, rfl, rfl, (wakes_iff _ _).mpr (Or.inl hforce)⟩
    | @caughtUp data flags hadaptive hqueue =>
      have hlt := hbound data flags rfl hadaptive
      have hcaughtUp := (caughtUp_after_iff hmake past hlt).mpr hqueue
      exact ⟨data, flags, rfl, rfl,
        (wakes_iff _ _).mpr (Or.inr ⟨hadaptive, beq_iff_eq.mpr hcaughtUp⟩)⟩

/-- A silent call does not ask for a wakeup, in whatever state the ring is. -/
theorem signal_not_mem_of_silent {op : Op} (hsilent : Silent op (ring.call op).1) :
    .signal ∉ ring.requestsOf op := by
  rw [signal_mem_requestsOf]
  rintro ⟨data, flags, rfl, hanswer, hwakes⟩
  rw [hanswer] at hsilent
  cases hsilent with
  | quiet _ _ hquiet hforce =>
    rcases (wakes_iff _ _).mp hwakes with h | ⟨hadaptive, _⟩
    · exact absurd h (by simp [hforce])
    · exact absurd hadaptive.1 (by simp [hquiet])

/-- A silent call leaves readiness as it is, in whatever state the ring is. -/
theorem ready_call_of_silent {op : Op} (hsilent : Silent op (ring.call op).1) :
    (ring.call op).2.ready = ring.ready := by
  have hfound : (op, (ring.call op).1) ≠ (.next, .read none) := by
    intro heq
    obtain ⟨rfl, hanswer⟩ := Prod.mk.inj heq
    rw [hanswer] at hsilent
    cases hsilent
  rw [Bool.eq_iff_iff, ready_call]
  simp [signal_not_mem_of_silent hsilent, hfound]

/-- Readiness after any calls that are made one after the other.  Only for a writer that leaves
the wakeup to the ring does it matter that the positions have not run over before. -/
theorem ready_after_iff (hmake : make size = .ok ring) (ops : List Op)
    (hbound : ∀ past data flags, past ++ [.output data flags] <+: ops → Adaptive flags →
      published past (ring.answers past) < 2 ^ 64) :
    ((ring.after ops).ready = true ↔ Woken (ring.exchanges ops)) ∧
      ∀ past op, past ++ [op] <+: ops → Silent op ((ring.after past).call op).1 →
        .signal ∉ (ring.after past).requestsOf op ∧
          (ring.after (past ++ [op])).ready = (ring.after past).ready := by
  constructor
  · induction ops using List.reverseRecOn with
    | nil =>
      obtain ⟨_, _, rfl⟩ := make_eq_ok hmake
      exact iff_of_false Bool.false_ne_true not_woken_nil
    | append_singleton ops op ih =>
      -- one more call at the end, which the bound on the calls before it speaks about
      have hready := ih fun past data flags hpast =>
        hbound past data flags (hpast.trans (List.prefix_append ops [op]))
      have hwaking := signal_mem_requestsOf_after hmake ops op
        fun data flags hop => hbound ops data flags (hop ▸ List.prefix_rfl)
      rw [after_concat, ready_call, exchanges_concat, woken_concat, hwaking, hready]
  · intro past op _ hsilent
    rw [after_concat]
    exact ⟨signal_not_mem_of_silent hsilent, ready_call_of_silent hsilent⟩

/-- A forced wakeup is taken back once the reader finds nothing.  Neither the quiet record nor the
one behind it asks for another; the last one does, as both of them have been read. -/
theorem ready_after_draining_twice :
    make 32 = .ok { words := #[0, 0, 0, 0], byteSize := 32 } ∧
      (Ring.after { words := #[0, 0, 0, 0], byteSize := 32 }
        [.output [1] 2, .next, .next, .output [2] 1, .output [3] 0, .next, .next,
          .output [4] 0]).ready = true := by
  have hmake : make 32 = .ok { words := #[0, 0, 0, 0], byteSize := 32 } := rfl
  let ops : List Op := [.output [1] 2, .next, .next, .output [2] 1, .output [3] 0, .next, .next,
    .output [4] 0]
  have hpublished : published ops
      (Ring.answers { words := #[0, 0, 0, 0], byteSize := 32 } ops) < 2 ^ 64 := by
    decide +kernel
  have hanswers := answers_of_settled (settled_of_make hmake) ops (by simpa [framed])
  have hready := (ready_after_iff hmake ops fun past data flags hpast _ =>
    Nat.lt_of_le_of_lt
      (published_mono ((List.prefix_append past _).trans hpast)) hpublished).1
  let past : List (Op × Answer) :=
    [(.output [1] 2, .written (.ok ())), (.next, .read (some [1])), (.next, .read none),
      (.output [2] 1, .written (.ok ())), (.output [3] 0, .written (.ok ())),
      (.next, .read (some [2])), (.next, .read (some [3]))]
  have hwaking : Waking past (.output [4] 0, .written (.ok ())) :=
    .caughtUp [4] ⟨rfl, rfl⟩ rfl
  refine ⟨hmake, hready.mpr ⟨past, _, [], ?_, hwaking, List.not_mem_nil⟩⟩
  rw [exchanges, hanswers]
  rfl

end PortKnock.Ring
