import PortKnock.Proofs.Ring.Runs

/-!
# The ring as a bounded queue

Calls that do not overlap cannot tell the ring from a queue of payloads that is
bounded in octets: whatever is written and read, and whatever sizes and offsets
the records have, both give the same answers.

## Strategy

A settled ring stands for the payloads of the reservations that the reader has
not passed (`waiting`).  One call does the same to a ring and to the queue it
stands for (`Agrees`); the result about all runs follows by induction on the
calls, the only thing to keep an eye on being that the positions do not run
over.
-/

namespace PortKnock.Ring

open Access

/-- A call of a writer, through whichever of the writing ends, or of the reader. -/
inductive Op
  | output (data : List UInt8) (flags : UInt64)
  | next
  deriving DecidableEq, Repr

/-- What a call is answered with. -/
inductive Answer
  | written (result : Except Refusal Unit)
  | read (record : Option (List UInt8))

/-- A whole call on the ring. -/
def call (ring : Ring) : Op → Answer × Ring
  | .output data flags =>
    match (output ring.byteSize data flags).run ring with
    | (result, ring) => (.written result, ring)
  | .next =>
    match next.run ring with
    | (record, ring) => (.read record, ring)

/-- The answers to calls that are made one after the other. -/
def answers (ring : Ring) : List Op → List Answer
  | [] => []
  | op :: ops => (ring.call op).1 :: (ring.call op).2.answers ops

/-- Octets that one call has published, framing included. -/
def publishedBy : Op → Answer → Nat
  | .output data _, .written (.ok ()) => footprint data.length
  | _, _ => 0

/-- Octets that calls with the given answers have published, framing included. -/
def published (ops : List Op) (answers : List Answer) : Nat :=
  (List.zipWith publishedBy ops answers).sum

/-! ## The queue -/

namespace Fifo

/-- Octets that the payloads of a queue take, framing included. -/
def load (queue : List (List UInt8)) : Nat :=
  (queue.map fun data => footprint data.length).sum

/-- The same call on a queue of payloads that holds `size` octets at most. -/
def call (size : Nat) (queue : List (List UInt8)) : Op → Answer × List (List UInt8)
  | .output data _ =>
    if data = [] then (.written (.error .empty), queue)
    else if size < footprint data.length ∨ 2 ^ 32 - 1 < data.length then
      (.written (.error .tooLarge), queue)
    else if size < load queue + footprint data.length then (.written (.error .full), queue)
    else (.written (.ok ()), queue ++ [data])
  | .next =>
    match queue with
    | [] => (.read none, [])
    | oldest :: rest => (.read (some oldest), rest)

def answers (size : Nat) (queue : List (List UInt8)) : List Op → List Answer
  | [] => []
  | op :: ops => (call size queue op).1 :: answers size (call size queue op).2 ops

/-- No queue ever gives up on a call because of other writers. -/
theorem contended_not_mem_answers (size : Nat) (queue : List (List UInt8)) (ops : List Op) :
    .written (.error .contended) ∉ answers size queue ops := by
  induction ops generalizing queue with
  | nil => exact List.not_mem_nil
  | cons op ops ih =>
    rw [answers, List.mem_cons, not_or]
    refine ⟨?_, ih _⟩
    cases op with
    | output data flags =>
      rw [call]
      split
      · simp
      split
      · simp
      split <;> simp
    | next => cases queue <;> simp [call]

end Fifo

/-! ## What a ring stands for -/

variable {ring : Ring} {log : List Reservation} {passed : Nat}

/-- The payloads that the reader has not passed, the oldest one first. -/
def waiting (log : List Reservation) (passed : Nat) : List (List UInt8) :=
  (log.drop passed).map Reservation.data

theorem waiting_concat (r : Reservation) (hpassed : passed ≤ log.length) :
    waiting (log ++ [r]) passed = waiting log passed ++ [r.data] := by
  rw [waiting, List.drop_append_of_le_length hpassed, List.map_append, waiting, List.map_singleton]

theorem waiting_of_getElem?_eq_some {r : Reservation} (hk : log[passed]? = some r) :
    waiting log passed = r.data :: waiting log (passed + 1) := by
  obtain ⟨hlt, heq⟩ := List.getElem?_eq_some_iff.mp hk
  rw [waiting, List.drop_eq_getElem_cons hlt, heq, List.map_cons, waiting]

theorem waiting_of_getElem?_eq_none (hk : log[passed]? = none) : waiting log passed = [] := by
  rw [waiting, List.drop_eq_nil_of_le (List.getElem?_eq_none_iff.mp hk), List.map_nil]

/-- The room in use is what the waiting payloads take. -/
theorem load_waiting (log : List Reservation) (passed : Nat) :
    Fifo.load (waiting log passed) = used log passed := by
  have hload :
      Fifo.load (waiting log passed) = 8 * ((log.drop passed).map Reservation.words).sum := by
    rw [Fifo.load, waiting, List.map_map]
    induction log.drop passed with
    | nil => rfl
    | cons r rest ih =>
      rw [List.map_cons, List.sum_cons, List.map_cons, List.sum_cons, ih, Nat.mul_add]
      rfl
  have hsplit : start log log.length =
      start log passed + ((log.drop passed).map Reservation.words).sum := by
    calc
      start log log.length = (log.map Reservation.words).sum := by
        rw [start, List.take_of_length_le (by simp)]
      _ = ((log.take passed ++ log.drop passed).map Reservation.words).sum := by
        rw [List.take_append_drop]
      _ = start log passed + ((log.drop passed).map Reservation.words).sum := by
        rw [List.map_append, List.sum_append, List.map_take, start]
  rw [hload, used, hsplit, Nat.add_sub_cancel_left]

/-! ## Draining -/

/-- There are no more records than words. -/
theorem length_waiting_le (settled : Settled ring log passed) :
    (waiting log passed).length ≤ ring.words.size := by
  have hcount : ∀ d, passed + d ≤ log.length → start log passed + d ≤ start log (passed + d) := by
    intro d
    induction d with
    | zero => exact fun _ => Nat.le_refl _
    | succ d ih =>
      intro hle
      have hlt : start log (passed + d) < start log (passed + (d + 1)) :=
        start_lt_start (by omega) (by omega)
      have := ih (by omega)
      omega
  have hpassed := settled.layout.passed_le
  have hall := hcount (log.length - passed) (by omega)
  have hfits := settled.layout.fits
  rw [Nat.add_sub_cancel' hpassed] at hall
  rw [waiting, List.length_map, List.length_drop]
  omega

theorem drainWithin_of_settled (settled : Settled ring log passed) {fuel : Nat}
    (hfuel : (waiting log passed).length < fuel) :
    ∃ ring', drainWithin fuel ring = (waiting log passed, ring') ∧
      Settled ring' log log.length := by
  induction fuel generalizing ring passed with
  | zero => exact absurd hfuel (Nat.not_lt_zero _)
  | succ fuel ih =>
    cases hk : log[passed]? with
    | none =>
      have hend : passed = log.length :=
        Nat.le_antisymm settled.layout.passed_le (List.getElem?_eq_none_iff.mp hk)
      rw [drainWithin, run_next_none settled hk, waiting_of_getElem?_eq_none hk]
      subst hend
      exact ⟨_, rfl, settled.layout.setReady false, settled.committed⟩
    | some r =>
      obtain ⟨ring₁, hrun, settled₁, _⟩ := run_next_some settled hk
      rw [waiting_of_getElem?_eq_some hk, List.length_cons] at hfuel
      obtain ⟨ring', hdrain, settled'⟩ := ih settled₁ (Nat.lt_of_succ_lt_succ hfuel)
      refine ⟨ring', ?_, settled'⟩
      rw [drainWithin, hrun, waiting_of_getElem?_eq_some hk]
      simp only [hdrain]

/-- Draining a ring takes out all that is waiting. -/
theorem drain_of_settled (settled : Settled ring log passed) :
    ∃ ring', ring.drain = (waiting log passed, ring') ∧ Settled ring' log log.length :=
  drainWithin_of_settled settled (Nat.lt_succ_of_le (length_waiting_le settled))

/-! ## Calls -/

/-- What one call does to a ring and to the queue that the ring stands for: both give the same
answer, and the ring stands for what the queue has become. -/
def Agrees (ring : Ring) (log : List Reservation) (passed : Nat) (op : Op) : Prop :=
  ∃ log' passed', Settled (ring.call op).2 log' passed' ∧
    (ring.call op).2.byteSize = ring.byteSize ∧
    framed log' = framed log + publishedBy op (ring.call op).1 ∧
    Fifo.call ring.byteSize.toNat (waiting log passed) op =
      ((ring.call op).1, waiting log' passed')

theorem agrees_of_refused (settled : Settled ring log passed) {data : List UInt8} {flags : UInt64}
    {refusal : Refusal}
    (hcall : ring.call (.output data flags) = (.written (.error refusal), ring))
    (hqueue : Fifo.call ring.byteSize.toNat (waiting log passed) (.output data flags) =
      (.written (.error refusal), waiting log passed)) :
    Agrees ring log passed (.output data flags) := by
  rw [Agrees, hcall]
  exact ⟨log, passed, settled, rfl, rfl, hqueue⟩

theorem agrees_output (settled : Settled ring log passed) (data : List UInt8) (flags : UInt64)
    (hbound : framed log + publishedBy (.output data flags) (ring.call (.output data flags)).1 <
      2 ^ 64) : Agrees ring log passed (.output data flags) := by
  by_cases hempty : data = []
  · subst hempty
    apply agrees_of_refused settled
    · rw [call, output_nil, run_pure]
    · rw [Fifo.call, if_pos rfl]
  by_cases hlarge : ring.byteSize.toNat < footprint data.length ∨ 2 ^ 32 - 1 < data.length
  · apply agrees_of_refused settled
    · rw [call, output_of_tooLarge hempty flags hlarge, run_pure]
    · rw [Fifo.call, if_neg hempty, if_pos hlarge]
  have hdata : Admissible ring.byteSize data :=
    ⟨hempty, Nat.le_of_not_lt (mt Or.inl hlarge), Nat.le_of_not_lt (mt Or.inr hlarge)⟩
  by_cases hfull : ring.byteSize.toNat < used log passed + footprint data.length
  · apply agrees_of_refused settled
    · rw [call, run_output_full settled hdata flags hfull]
    · rw [Fifo.call, if_neg hempty, if_neg hlarge, load_waiting, if_pos hfull]
  -- there is nothing against the payload
  have hroom := Nat.le_of_not_lt hfull
  have haccepts := run_output_accepts settled hdata flags hroom
  simp only [call, haccepts, publishedBy] at hbound
  obtain ⟨ring', hrun, settled', hbyteSize, _⟩ := run_output_ok settled hdata flags hroom hbound
  have hcall : ring.call (.output data flags) = (.written (.ok ()), ring') := by
    rw [call, hrun]
  have hqueue : Fifo.call ring.byteSize.toNat (waiting log passed) (.output data flags) =
      (.written (.ok ()), waiting log passed ++ [data]) := by
    rw [Fifo.call, if_neg hempty, if_neg hlarge, load_waiting, if_neg hfull]
  rw [Agrees, hcall, hqueue]
  exact ⟨_, passed, settled', hbyteSize, framed_concat log _,
    by rw [waiting_concat _ settled.layout.passed_le]⟩

theorem agrees_next (settled : Settled ring log passed) : Agrees ring log passed .next := by
  cases hk : log[passed]? with
  | none =>
    have hcall : ring.call .next = (.read none, { ring with ready := false }) := by
      rw [call, run_next_none settled hk]
    have hwaiting := waiting_of_getElem?_eq_none hk
    rw [Agrees, hcall, hwaiting]
    exact ⟨log, passed, ⟨settled.layout.setReady false, settled.committed⟩, rfl, rfl,
      by rw [hwaiting]; rfl⟩
  | some r =>
    obtain ⟨ring', hrun, settled', hbyteSize, _⟩ := run_next_some settled hk
    have hcall : ring.call .next = (.read (some r.data), ring') := by
      rw [call, hrun]
    rw [Agrees, hcall, waiting_of_getElem?_eq_some hk]
    exact ⟨log, passed + 1, settled', hbyteSize, rfl, rfl⟩

theorem agrees_of_settled (settled : Settled ring log passed) (op : Op)
    (hbound : framed log + publishedBy op (ring.call op).1 < 2 ^ 64) :
    Agrees ring log passed op := by
  cases op with
  | output data flags => exact agrees_output settled data flags hbound
  | next => exact agrees_next settled

theorem answers_of_settled (settled : Settled ring log passed) (ops : List Op)
    (hbound : framed log + published ops (ring.answers ops) < 2 ^ 64) :
    ring.answers ops = Fifo.answers ring.byteSize.toNat (waiting log passed) ops := by
  induction ops generalizing ring log passed with
  | nil => rfl
  | cons op ops ih =>
    have hsplit : published (op :: ops) (ring.answers (op :: ops)) =
        publishedBy op (ring.call op).1 + published ops ((ring.call op).2.answers ops) := by
      rw [answers, published, List.zipWith_cons_cons, List.sum_cons, published]
    obtain ⟨log', passed', settled', hbyteSize, hframed, hcall⟩ :=
      agrees_of_settled settled op (by omega)
    rw [answers, Fifo.answers, hcall, ih settled' (by omega), hbyteSize]

/-- As long as the positions do not run over, a ring of an accepted size gives the answers of a
bounded queue, and never the one that it gave up because of other writers. -/
theorem answers_eq_fifo {size : UInt64} {ring : Ring} (hmake : make size = .ok ring)
    (ops : List Op) (hbound : published ops (ring.answers ops) < 2 ^ 64) :
    ring.answers ops = Fifo.answers size.toNat [] ops ∧
      .written (.error .contended) ∉ ring.answers ops := by
  have hbyteSize : ring.byteSize = size := by
    obtain ⟨_, _, rfl⟩ := make_eq_ok hmake
    rfl
  have hanswers := answers_of_settled (settled_of_make hmake) ops (by simpa [framed] using hbound)
  rw [hbyteSize] at hanswers
  refine ⟨hanswers, ?_⟩
  rw [hanswers]
  exact Fifo.contended_not_mem_answers _ _ _

/-- A record of nine octets fills a ring of four words but for one, so the record of eight octets
behind it runs over the end of the storage once the first one is read. -/
theorem answers_over_the_end :
    make 32 = .ok { words := #[0, 0, 0, 0], byteSize := 32 } ∧
      Ring.answers { words := #[0, 0, 0, 0], byteSize := 32 }
          [.output [1, 2, 3, 4, 5, 6, 7, 8, 9] 0, .output [1] 0, .next,
            .output [8, 7, 6, 5, 4, 3, 2, 1] 0, .next, .next] =
        [.written (.ok ()), .written (.error .full), .read (some [1, 2, 3, 4, 5, 6, 7, 8, 9]),
          .written (.ok ()), .read (some [8, 7, 6, 5, 4, 3, 2, 1]), .read none] := by
  have hmake : make 32 = .ok { words := #[0, 0, 0, 0], byteSize := 32 } := rfl
  exact ⟨hmake, (answers_eq_fifo hmake _ (by decide +kernel)).1⟩

end PortKnock.Ring
