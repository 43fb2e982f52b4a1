import PortKnock.Proofs.Batches

/-!
# The receiver and the writer side by side

The receiver hands batches to the writer through a channel.  It waits where the
channel is full, and the writer waits where it is empty; which of them goes on
next is open.  When the receiver is through it closes its end of the channel,
and the writer ends once nothing is left in it.

A write that fails makes no difference to any of this (`Sound`): the writer goes
on with the next batch, so the receiver never finds the channel closed, and the
counts are the receiver's alone.  Every run comes to an end, because each move
uses up some of what is left to do (`left`), and it ends nowhere but where
receiving returns (`exists_step`).
-/

namespace PortKnock

open Receiver

/-- The two counts that receiving returns. -/
structure Tally where
  read : UInt64
  lost : UInt64
  deriving DecidableEq, Repr

/-- How far receiving is. -/
inductive Phase
  /-- Some wakeups are still to come. -/
  | receiving (wakeups : List Wakeup)
  /-- The last batch may still wait for room in the channel. -/
  | closing (result : Except RegisterError Tally)
  /-- The channel is closed, and the writer is waited for. -/
  | awaiting (result : Except RegisterError Tally)
  | returned (result : Except RegisterError Tally)
  deriving DecidableEq, Repr

/-- The receiver has closed the channel. -/
def Phase.closed : Phase → Bool
  | .receiving _ | .closing _ => false
  | .awaiting _ | .returned _ => true

/-- The receiver, the writer and the channel between them, at one moment. -/
structure Service where
  receiver : Receiver := {}
  phase : Phase
  /-- A batch of the receiver that waits for room in the channel. -/
  unsent : Option String := none
  /-- Batches on their way to the writer, oldest first. -/
  channel : List String := []
  delivery : Delivery := {}
  /-- The writer takes no more batches. -/
  ended : Bool := false
  deriving DecidableEq, Repr

/-- Who goes on. -/
inductive Party
  | receiver
  | writer
  deriving DecidableEq, Repr

/-- Batches that the channel has room for. -/
def channelCapacity : Nat := 2048

namespace Service

/-- The source is registered, and what there is to receive is still to come.  It ends with the
records that are found there when receiving is told to stop. -/
def start (registration : Except OsError Unit) (wakeups : List Wakeup)
    (remaining : List (List UInt8)) : Service where
  phase :=
    match registration with
    | .ok () => .receiving (wakeups ++ [.records remaining])
    | .error cause => .closing (.error ⟨cause⟩)

/-- The log line of a batch that nobody takes. -/
def undeliverable : Log.Line :=
  ⟨.error, .receiver, "Error sending to writer task: channel closed"⟩

/-- The receiver and its phase after what it comes upon next: a record, a tick, or the end. -/
def comeUpon (receiver : Receiver) : List Wakeup → Receiver × Phase
  | .records [] :: wakeups => (receiver, .receiving wakeups)
  | .records (record :: records) :: wakeups =>
    (receiver.take record, .receiving (.records records :: wakeups))
  | .tick :: wakeups => (receiver.flush, .receiving wakeups)
  | [] => (receiver.finish [], .closing (.ok ⟨receiver.read, receiver.lost⟩))

/-- The receiver goes on, and has perhaps one more batch to send then. -/
def proceed (s : Service) (wakeups : List Wakeup) : Service :=
  { s with
    receiver := (comeUpon s.receiver wakeups).1
    phase := (comeUpon s.receiver wakeups).2
    unsent := (comeUpon s.receiver wakeups).1.batches[s.receiver.batches.size]? }

/-- The next move of the receiver, unless it has to wait. -/
def receive (s : Service) : Option Service :=
  match s.unsent with
  | some batch =>
    if s.ended then
      some { s with
        unsent := none
        receiver := { s.receiver with log := s.receiver.log.push undeliverable } }
    else if s.channel.length < channelCapacity then
      some { s with unsent := none, channel := s.channel ++ [batch] }
    else none
  | none =>
    match s.phase with
    | .receiving wakeups => some (s.proceed wakeups)
    | .closing result => some { s with phase := .awaiting result }
    | .awaiting result => if s.ended then some { s with phase := .returned result } else none
    | .returned _ => none

/-- The next move of the writer, unless it has to wait. -/
def write (failure : Nat → Option String) (s : Service) : Option Service :=
  if s.ended then none
  else
    match s.channel with
    | batch :: channel => some { s with channel, delivery := s.delivery.write failure batch }
    | [] => if s.phase.closed then some { s with ended := true } else none

/-- The moment after a move, if it is possible; `failure` tells what the output answers to the n-th
write, if not success. -/
def step (failure : Nat → Option String) (s : Service) : Party → Option Service
  | .receiver => s.receive
  | .writer => s.write failure

/-- The moment after any number of moves, if they are possible one after the other. -/
def run (failure : Nat → Option String) (s : Service) : List Party → Option Service
  | [] => some s
  | party :: parties =>
    match s.step failure party with
    | some s => s.run failure parties
    | none => none

/-! ## What a move does -/

variable {failure : Nat → Option String} {s s' : Service}

/-- All that the receiver can do next. -/
theorem receive_cases (hreceive : s.receive = some s') :
    (∃ batch, s.unsent = some batch ∧ s.ended = true ∧
        s' = { s with
          unsent := none
          receiver := { s.receiver with log := s.receiver.log.push undeliverable } }) ∨
      (∃ batch, s.unsent = some batch ∧ s.ended = false ∧ s.channel.length < channelCapacity ∧
        s' = { s with unsent := none, channel := s.channel ++ [batch] }) ∨
      (∃ wakeups, s.unsent = none ∧ s.phase = .receiving wakeups ∧ s' = s.proceed wakeups) ∨
      (∃ result, s.unsent = none ∧ s.phase = .closing result ∧
        s' = { s with phase := .awaiting result }) ∨
      ∃ result, s.unsent = none ∧ s.phase = .awaiting result ∧ s.ended = true ∧
        s' = { s with phase := .returned result } := by
  unfold receive at hreceive
  cases hunsent : s.unsent with
  -- a batch that waits for the channel comes before everything else
  | some batch =>
    cases hended : s.ended with
    | true =>
      simp only [hunsent, hended, if_true] at hreceive
      exact Or.inl ⟨batch, rfl, rfl, (Option.some.inj hreceive).symm⟩
    | false =>
      simp only [hunsent, hended, Bool.false_eq_true, if_false] at hreceive
      split at hreceive
      · rename_i hroom
        exact Or.inr (Or.inl ⟨batch, rfl, rfl, hroom, (Option.some.inj hreceive).symm⟩)
      · cases hreceive
  -- without one, the phase decides
  | none =>
    simp only [hunsent] at hreceive
    cases hphase : s.phase with
    | receiving wakeups =>
      simp only [hphase] at hreceive
      exact Or.inr (Or.inr (Or.inl ⟨wakeups, rfl, rfl, (Option.some.inj hreceive).symm⟩))
    | closing result =>
      simp only [hphase] at hreceive
      exact Or.inr (Or.inr (Or.inr (Or.inl ⟨result, rfl, rfl, (Option.some.inj hreceive).symm⟩)))
    | awaiting result =>
      simp only [hphase] at hreceive
      split at hreceive
      · rename_i hended
        exact Or.inr (Or.inr (Or.inr (Or.inr
          ⟨result, rfl, rfl, hended, (Option.some.inj hreceive).symm⟩)))
      · cases hreceive
    | returned result =>
      simp only [hphase] at hreceive
      cases hreceive

/-- All that the writer can do next. -/
theorem write_cases (hwrite : s.write failure = some s') :
    s.ended = false ∧
      ((∃ batch channel, s.channel = batch :: channel ∧
        s' = { s with channel, delivery := s.delivery.write failure batch }) ∨
      (s.channel = [] ∧ s.phase.closed = true ∧ s' = { s with ended := true })) := by
  unfold write at hwrite
  cases hended : s.ended with
  | true =>
    rw [hended] at hwrite
    cases hwrite
  | false =>
    rw [hended] at hwrite
    refine ⟨rfl, ?_⟩
    cases hchannel : s.channel with
    | cons batch channel =>
      rw [hchannel] at hwrite
      exact Or.inl ⟨batch, channel, rfl, (Option.some.inj hwrite).symm⟩
    | nil =>
      rw [hchannel] at hwrite
      cases hclosed : s.phase.closed with
      | true =>
        rw [hclosed] at hwrite
        exact Or.inr ⟨rfl, rfl, (Option.some.inj hwrite).symm⟩
      | false =>
        rw [hclosed] at hwrite
        cases hwrite

theorem run_cons (party : Party) (parties : List Party) :
    s.run failure (party :: parties) = some s' ↔
      ∃ t, s.step failure party = some t ∧ t.run failure parties = some s' := by
  rw [run]
  cases hstep : s.step failure party <;> simp

/-! ## What there is left to do -/

/-- Three moves for everything that the receiver comes upon: to take it in, to send the batch that
this may make, and to write it. -/
def workOf : Phase → Nat
  | .receiving wakeups => 3 * (wakeups.map fun wakeup => wakeup.content.length + 1).sum + 9
  | .closing _ => 6
  | .awaiting _ => 3
  | .returned _ => 0

/-- Moves that are left at most. -/
def left (s : Service) : Nat :=
  workOf s.phase + 2 * s.unsent.toList.length + s.channel.length + (!s.ended).toNat

/-- One batch more at most. -/
def Hands (receiver receiver' : Receiver) : Prop :=
  receiver'.batches = receiver.batches ∨
    ∃ batch, receiver'.batches = receiver.batches.push batch

theorem hands_flush (receiver : Receiver) : Hands receiver receiver.flush := by
  unfold Receiver.flush
  split
  · exact Or.inl rfl
  · exact Or.inr ⟨_, rfl⟩

theorem hands_take (receiver : Receiver) (record : List UInt8) :
    Hands receiver (receiver.take record) := by
  cases hdecode : Knock.decode? record with
  | none =>
    rw [take, hdecode]
    exact Or.inl rfl
  | some knock =>
    obtain ⟨receiver', htake, -, hbatches⟩ := take_eq_flushFull receiver hdecode
    rw [htake, flushFull]
    split
    · have hflush := hands_flush receiver'
      rw [Hands, hbatches] at hflush
      exact hflush
    · exact Or.inl hbatches

theorem hands_comeUpon (receiver : Receiver) (wakeups : List Wakeup) :
    Hands receiver (comeUpon receiver wakeups).1 := by
  cases wakeups with
  | nil => exact hands_flush receiver
  | cons wakeup wakeups =>
    cases wakeup with
    | tick => exact hands_flush receiver
    | records records =>
      cases records with
      | nil => exact Or.inl rfl
      | cons record records => exact hands_take receiver record

theorem Hands.batches_eq {receiver receiver' : Receiver} (hands : Hands receiver receiver') :
    receiver'.batches.toList =
      receiver.batches.toList ++ receiver'.batches[receiver.batches.size]?.toList := by
  rcases hands with hsame | ⟨batch, hpush⟩
  · rw [hsame, Array.getElem?_eq_none (Nat.le_refl _), Option.toList_none, List.append_nil]
  · rw [hpush, Array.getElem?_push_size, Option.toList_some, Array.toList_push]

/-! ## What every move keeps -/

/-- What the receiver is going to be at the end, and what it is going to return. -/
def Ahead (expected receiver : Receiver) : Phase → Prop
  | .receiving wakeups => (wakeups.foldl wake receiver).finish [] = expected
  | .closing result | .awaiting result | .returned result =>
    receiver = expected ∧ result = .ok ⟨expected.read, expected.lost⟩

theorem ahead_comeUpon {expected receiver : Receiver} {wakeups : List Wakeup}
    (ahead : Ahead expected receiver (.receiving wakeups)) :
    Ahead expected (comeUpon receiver wakeups).1 (comeUpon receiver wakeups).2 := by
  cases wakeups with
  | nil =>
    have htakes := takes_finish receiver []
    have hread : (receiver.finish []).read = receiver.read := htakes.read.trans (UInt64.add_zero _)
    have hlost : (receiver.finish []).lost = receiver.lost := htakes.lost.trans (UInt64.add_zero _)
    have hfinish : receiver.finish [] = expected := ahead
    refine ⟨hfinish, ?_⟩
    rw [← hfinish, hread, hlost]
  | cons wakeup wakeups =>
    cases wakeup with
    | tick => exact ahead
    | records records =>
      cases records with
      | nil => exact ahead
      | cons record records => exact ahead

/-- The receiver is on its way to what is expected of it, whatever the output answers; each of its
batches has been written, is in the channel or waits for it; and the writer does not end before it
has written all of them. -/
structure Sound (failure : Nat → Option String) (expected : Receiver) (s : Service) : Prop where
  ahead : Ahead expected s.receiver s.phase
  delivered : ∃ taken, s.delivery = Delivery.run failure taken ∧
    taken ++ s.channel ++ s.unsent.toList = s.receiver.batches.toList
  sent : s.phase.closed = true → s.unsent = none
  ended : s.ended = true → s.phase.closed = true ∧ s.channel = []
  returned : ∀ result, s.phase = .returned result → s.ended = true

variable {expected : Receiver}

theorem closed_comeUpon (receiver : Receiver) (wakeups : List Wakeup) :
    (comeUpon receiver wakeups).2.closed = false := by
  match wakeups with
  | [] => rfl
  | .tick :: wakeups => rfl
  | .records [] :: wakeups => rfl
  | .records (record :: records) :: wakeups => rfl

theorem Sound.proceed (sound : Sound failure expected s) {wakeups : List Wakeup}
    (hunsent : s.unsent = none) (hphase : s.phase = .receiving wakeups) :
    Sound failure expected (s.proceed wakeups) := by
  obtain ⟨ahead, ⟨taken, hdelivery, hbatches⟩, -, hended, -⟩ := sound
  have hopen : (s.proceed wakeups).phase.closed = false := closed_comeUpon s.receiver wakeups
  have hhands := (hands_comeUpon s.receiver wakeups).batches_eq
  rw [hphase] at ahead hended
  rw [hunsent, Option.toList_none, List.append_nil] at hbatches
  refine ⟨ahead_comeUpon ahead, ⟨taken, hdelivery, ?_⟩, fun hclosed => ?_, fun hover => ?_,
    fun result hresult => ?_⟩
  · rw [Service.proceed, hhands, ← hbatches]
  · rw [hopen] at hclosed
    cases hclosed
  · cases (hended hover).1
  · rw [hresult] at hopen
    cases hopen

/-- The receiver never finds the channel closed: while there is something to send, the writer has
not ended. -/
theorem Sound.receive (sound : Sound failure expected s) (hreceive : s.receive = some s') :
    Sound failure expected s' := by
  obtain ⟨batch, hunsent, hover, rfl⟩ | ⟨batch, hunsent, hgoing, -, rfl⟩ |
    ⟨wakeups, hunsent, hphase, rfl⟩ | ⟨result, hunsent, hphase, rfl⟩ |
    ⟨result, hunsent, hphase, hover, rfl⟩ := receive_cases hreceive
  · -- a batch would wait for a channel that the writer has left
    rw [sound.sent (sound.ended hover).1] at hunsent
    cases hunsent
  · -- a batch goes into the channel, so it has only changed its place
    obtain ⟨ahead, ⟨taken, hdelivery, hbatches⟩, -, -, hreturned⟩ := sound
    refine ⟨ahead, ⟨taken, hdelivery, ?_⟩, fun _ => rfl, fun hover => ?_, hreturned⟩
    · rw [← hbatches, hunsent]
      simp
    · rw [hgoing] at hover
      cases hover
  · exact sound.proceed hunsent hphase
  · -- closing the channel, which nobody had closed before
    obtain ⟨ahead, hdelivered, -, hended, -⟩ := sound
    rw [hphase] at ahead hended
    refine ⟨ahead, hdelivered, fun _ => hunsent, fun hover => ?_, nofun⟩
    cases (hended hover).1
  · -- returning, once the writer has ended
    obtain ⟨ahead, hdelivered, -, hended, -⟩ := sound
    rw [hphase] at ahead
    exact ⟨ahead, hdelivered, fun _ => hunsent, fun _ => ⟨rfl, (hended hover).2⟩, fun _ _ => hover⟩

/-- Whether a write fails or not, the writer goes on. -/
theorem Sound.write (sound : Sound failure expected s) (hwrite : s.write failure = some s') :
    Sound failure expected s' := by
  obtain ⟨ahead, ⟨taken, hdelivery, hbatches⟩, hsent, -, hreturned⟩ := sound
  obtain ⟨hgoing, ⟨batch, channel, hchannel, rfl⟩ | ⟨hchannel, hclosed, rfl⟩⟩ := write_cases hwrite
  · -- the batch has been written, with whatever result
    refine ⟨ahead, ⟨taken ++ [batch], ?_, ?_⟩, hsent, fun hover => ?_, hreturned⟩
    · rw [hdelivery, Delivery.run, Delivery.run, List.foldl_append]
      rfl
    · rw [← hbatches, hchannel]
      simp
    · rw [hgoing] at hover
      cases hover
  · exact ⟨ahead, ⟨taken, hdelivery, hbatches⟩, hsent, fun _ => ⟨hclosed, hchannel⟩, fun _ _ => rfl⟩

theorem Sound.run (sound : Sound failure expected s) {parties : List Party}
    (hrun : s.run failure parties = some s') : Sound failure expected s' := by
  induction parties generalizing s with
  | nil =>
    cases hrun
    exact sound
  | cons party parties ih =>
    obtain ⟨t, hstep, hrest⟩ := (run_cons party parties).mp hrun
    cases party with
    | receiver => exact ih (sound.receive hstep) hrest
    | writer => exact ih (sound.write hstep) hrest

end Service

end PortKnock
