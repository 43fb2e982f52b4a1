import PortKnock.Proofs.Ring.Admission

/-!
# Where a call stands

What is left to do of a call is a tree of requests, which says little about how
far the call has come.  Here both kinds of calls are brought into the form of a
machine: a stage, the request that is next in this stage, and the stages that
its replies lead to.  `Writing.step_of_work` and `Reading.step_of_work` say that
the machines do what the code does, request by request; from there on nobody has
to look at the code again.
-/

namespace PortKnock.Ring

open Octets Access

/-! ## Writers -/

/-- Where a call of `output` stands. -/
inductive Writing
  /-- About to look where the next record would be reserved. -/
  | arriving
  /-- About to look how far the reader is, with `more` attempts behind this one. -/
  | measuring (more : Nat) (head : UInt64)
  /-- There was room at `head`; about to reserve it. -/
  | claiming (more : Nat) (head : UInt64)
  /-- About to store `rest` from `next` on, and then the header of the record at `pos`. -/
  | copying (pos next : UInt64) (rest : List UInt64)
  /-- Complete; about to look whether the reader has caught up. -/
  | deciding (pos : UInt64)
  /-- Complete; about to ask for a wakeup. -/
  | signalling
  | finished (result : Except Refusal Unit)

namespace Writing

variable {byteSize flags : UInt64} {data : List UInt8}

/-- Where a lost swap leads to. -/
def lost (current : UInt64) : (more : Nat) → Writing
  | 0 => finished (.error .contended)
  | more + 1 => measuring more current

/-- Where a stored header leads to. -/
def sealed (flags pos : UInt64) : Writing :=
  if flags &&& forceWakeup != 0 then signalling
  else if flags &&& noWakeup == 0 then deciding pos
  else finished (.ok ())

/-- What is left to do in a stage. -/
def work (byteSize : UInt64) (data : List UInt8) (flags : UInt64) :
    Writing → Access (Except Refusal Unit)
  | arriving =>
    reserveWithin byteSize (total data) reserveAttempts >>= afterReserving data flags
  | measuring more head =>
    reserveFrom byteSize (total data) (more + 1) head >>= afterReserving data flags
  | claiming more head => do
    match ← swapProducer head (head + total data) with
    | none => afterReserving data flags (.ok head)
    | some current =>
      reserveFrom byteSize (total data) more current >>= afterReserving data flags
  | copying pos next rest => do
    storeWords next rest
    commit pos (UInt64.ofNat data.length)
    notify pos flags
    return .ok ()
  | deciding pos =>
    (do
      let tail ← loadConsumer
      if tail == pos then
        signal) >>= fun _ => pure (.ok ())
  | signalling => do
    signal
    return .ok ()
  | finished result => pure result

/-- One request in one stage: with which reply it leads to which stage. -/
inductive Step (byteSize : UInt64) (data : List UInt8) (flags : UInt64) :
    Writing → (request : Request) → request.Reply → Writing → Prop
  | arrive (head : UInt64) :
    Step byteSize data flags arriving .loadProducer head (measuring (reserveAttempts - 1) head)
  | full {more : Nat} {head : UInt64} (tail : UInt64)
      (hfull : distance head tail + total data > byteSize) :
    Step byteSize data flags (measuring more head) .loadConsumer tail (finished (.error .full))
  | measure {more : Nat} {head : UInt64} (tail : UInt64)
      (hroom : ¬ distance head tail + total data > byteSize) :
    Step byteSize data flags (measuring more head) .loadConsumer tail (claiming more head)
  | win {more : Nat} {head : UInt64} :
    Step byteSize data flags (claiming more head) (.swapProducer head (head + total data)) none
      (copying head (head + headerSize) (payloadWords data))
  | lose {more : Nat} {head : UInt64} (current : UInt64) :
    Step byteSize data flags (claiming more head) (.swapProducer head (head + total data))
      (some current) (lost current more)
  | copy {pos next word : UInt64} {rest : List UInt64} :
    Step byteSize data flags (copying pos next (word :: rest)) (.storeWord next word) ()
      (copying pos (next + 8) rest)
  | complete {pos next : UInt64} :
    Step byteSize data flags (copying pos next [])
      (.storeWord pos (committedHeader (UInt64.ofNat data.length))) () (sealed flags pos)
  | caughtUp {pos : UInt64} : Step byteSize data flags (deciding pos) .loadConsumer pos signalling
  | behind {pos tail : UInt64} (htail : tail ≠ pos) :
    Step byteSize data flags (deciding pos) .loadConsumer tail (finished (.ok ()))
  | signal : Step byteSize data flags signalling .signal () (finished (.ok ()))

theorem work_lost (current : UInt64) (more : Nat) :
    (lost current more).work byteSize data flags =
      reserveFrom byteSize (total data) more current >>= afterReserving data flags := by
  cases more <;> rfl

theorem work_sealed (pos : UInt64) :
    (sealed flags pos).work byteSize data flags =
      notify pos flags >>= fun _ => pure (.ok ()) := by
  unfold sealed notify
  split
  · rfl
  · split <;> rfl

/-- Every request of a writer is the one of its stage. -/
theorem step_of_work {stage : Writing} {request : Request}
    {next : request.Reply → Access (Except Refusal Unit)}
    (hwork : stage.work byteSize data flags = .request request next) (reply : request.Reply) :
    ∃ stage', Step byteSize data flags stage request reply stage' ∧
      next reply = stage'.work byteSize data flags := by
  cases stage with
  | arriving =>
    cases hwork
    exact ⟨_, .arrive reply, rfl⟩
  | measuring more head =>
    -- the reply decides whether this attempt gets as far as its swap
    rw [work, reserveFrom_succ] at hwork
    cases hwork
    by_cases hfull : distance head reply + total data > byteSize
    · refine ⟨_, .full reply hfull, ?_⟩
      simp only [bind_done, if_pos hfull]
      rfl
    · refine ⟨_, .measure reply hfull, ?_⟩
      simp only [bind_done, if_neg hfull]
      refine congrArg (Access.request _) (funext fun reply => ?_)
      cases reply <;> rfl
  | claiming more head =>
    cases hwork
    cases reply with
    | none =>
      refine ⟨_, .win, ?_⟩
      rw [work, ← storeOctets_eq]
      rfl
    | some current => exact ⟨_, .lose current, (work_lost current more).symm⟩
  | copying pos pos' rest =>
    -- behind the last word of the payload comes the header
    cases rest with
    | nil =>
      cases hwork
      exact ⟨_, .complete, (work_sealed pos).symm⟩
    | cons word rest =>
      cases hwork
      exact ⟨_, .copy, rfl⟩
  | deciding pos =>
    cases hwork
    by_cases htail : reply = pos
    · subst htail
      refine ⟨_, .caughtUp, ?_⟩
      simp only [bind_done, beq_self_eq_true, if_true]
      rfl
    · refine ⟨_, .behind htail, ?_⟩
      simp only [bind_done, beq_eq_false_iff_ne.mpr htail, Bool.false_eq_true, if_false]
      rfl
  | signalling =>
    cases hwork
    exact ⟨_, .signal, rfl⟩
  | finished result => cases hwork

end Writing

/-! ## The reader -/

/-- Where the reader stands. -/
inductive Reading
  /-- In no call. -/
  | idle
  /-- About to look where the next record is. -/
  | locating
  /-- About to look for a header at `tail`. -/
  | looking (tail : UInt64)
  /-- There was none; about to take back all wakeups. -/
  | resetting (tail : UInt64)
  /-- About to look for a header once more. -/
  | lookingAgain (tail : UInt64)
  /-- Took the words `taken`, latest first; about to read the one at `pos`, or to clear the header
  if the payload ends there. -/
  | taking (tail header : UInt64) (fuel : Nat) (pos : UInt64) (taken : List UInt64)
  /-- Read `word` as well; about to clear it. -/
  | clearing (tail header : UInt64) (fuel : Nat) (pos word : UInt64) (taken : List UInt64)
  /-- All words are cleared; about to pass the record. -/
  | passing (tail header : UInt64) (taken : List UInt64)
  /-- About to return. -/
  | returning (answer : Option (List UInt8))

namespace Reading

/-- Where a record at `tail` ends. -/
def stop (tail header : UInt64) : UInt64 :=
  tail + recordLength (header &&& lengthMask)

/-- The payload of a record, put together. -/
def payload (header : UInt64) (taken : List UInt64) : List UInt8 :=
  (octetsOf taken.reverse).take (header &&& lengthMask).toNat

/-- Where a header leads to. -/
def found (tail header : UInt64) : Reading :=
  taking tail header (recordLength (header &&& lengthMask) / 8).toNat (tail + headerSize) []

/-- What is left to do once all words of a payload are read. -/
def finish (tail header : UInt64) (words : List UInt64) : Access (List UInt8) := do
  storeWord tail 0
  storeConsumer (stop tail header)
  return (octetsOf words).take (header &&& lengthMask).toNat

def lookAgain (tail : UInt64) : Access (Option (List UInt8)) := do
  let header ← loadWord tail
  if isCommitted header then
    some <$> takeRecord tail header
  else
    return none

/-- What is left to do in a stage. -/
def work : Reading → Option (Access (Option (List UInt8)))
  | idle => none
  | locating => some next
  | looking tail => some do
    let header ← loadWord tail
    if isCommitted header then
      some <$> takeRecord tail header
    else
      reset
      lookAgain tail
  | resetting tail => some do
    reset
    lookAgain tail
  | lookingAgain tail => some (lookAgain tail)
  | taking tail header fuel pos taken =>
    some (some <$> (takeWords (stop tail header) fuel pos taken >>= finish tail header))
  | clearing tail header fuel pos word taken =>
    some (some <$> ((do
      storeWord pos 0
      takeWords (stop tail header) fuel (pos + 8) (word :: taken)) >>= finish tail header))
  | passing tail header taken => some (some <$> (do
      storeConsumer (stop tail header)
      return payload header taken))
  | returning answer => some (pure answer)

/-- One request in one stage: with which reply it leads to which stage. -/
inductive Step : Reading → (request : Request) → request.Reply → Reading → Prop
  | locate (tail : UInt64) : Step locating .loadConsumer tail (looking tail)
  | find {tail : UInt64} (header : UInt64) (hheader : isCommitted header = true) :
    Step (looking tail) (.loadWord tail) header (found tail header)
  | miss {tail : UInt64} (header : UInt64) (hheader : isCommitted header = false) :
    Step (looking tail) (.loadWord tail) header (resetting tail)
  | reset {tail : UInt64} : Step (resetting tail) .reset () (lookingAgain tail)
  | findAgain {tail : UInt64} (header : UInt64) (hheader : isCommitted header = true) :
    Step (lookingAgain tail) (.loadWord tail) header (found tail header)
  | missAgain {tail : UInt64} (header : UInt64) (hheader : isCommitted header = false) :
    Step (lookingAgain tail) (.loadWord tail) header (returning none)
  | load {tail header : UInt64} {fuel : Nat} {pos : UInt64} {taken : List UInt64} (word : UInt64)
      (hpos : pos < stop tail header) :
    Step (taking tail header (fuel + 1) pos taken) (.loadWord pos) word
      (clearing tail header fuel pos word taken)
  | clear {tail header : UInt64} {fuel : Nat} {pos word : UInt64} {taken : List UInt64} :
    Step (clearing tail header fuel pos word taken) (.storeWord pos 0) ()
      (taking tail header fuel (pos + 8) (word :: taken))
  | erase {tail header : UInt64} {fuel : Nat} {pos : UInt64} {taken : List UInt64}
      (hend : fuel = 0 ∨ ¬ pos < stop tail header) :
    Step (taking tail header fuel pos taken) (.storeWord tail 0) () (passing tail header taken)
  | pass {tail header : UInt64} {taken : List UInt64} :
    Step (passing tail header taken) (.storeConsumer (stop tail header)) ()
      (returning (some (payload header taken)))

/-- Every request of the reader is the one of its stage. -/
theorem step_of_work {stage : Reading} {request : Request}
    {next : request.Reply → Access (Option (List UInt8))}
    (hwork : stage.work = some (.request request next)) (reply : request.Reply) :
    ∃ stage', Step stage request reply stage' ∧ stage'.work = some (next reply) := by
  cases stage with
  | idle => cases hwork
  | locating =>
    cases hwork
    exact ⟨_, .locate reply, rfl⟩
  | looking tail =>
    cases hwork
    cases hheader : isCommitted reply with
    | false =>
      refine ⟨_, .miss reply hheader, ?_⟩
      simp only [bind_done, hheader, Bool.false_eq_true, if_false]
      rfl
    | true =>
      refine ⟨_, .find reply hheader, ?_⟩
      simp only [bind_done, hheader, if_true]
      rfl
  | resetting tail =>
    cases hwork
    exact ⟨_, .reset, rfl⟩
  | lookingAgain tail =>
    cases hwork
    cases hheader : isCommitted reply with
    | false =>
      refine ⟨_, .missAgain reply hheader, ?_⟩
      simp only [bind_done, hheader, Bool.false_eq_true, if_false]
      rfl
    | true =>
      refine ⟨_, .findAgain reply hheader, ?_⟩
      simp only [bind_done, hheader, if_true]
      rfl
  | taking tail header fuel pos taken =>
    -- one more word, or the header if the fuel or the record is at its end
    cases fuel with
    | zero =>
      cases hwork
      exact ⟨_, .erase (Or.inl rfl), rfl⟩
    | succ fuel =>
      by_cases hpos : pos < stop tail header
      · rw [work, takeWords_succ, if_pos hpos] at hwork
        cases hwork
        exact ⟨_, .load reply hpos, rfl⟩
      · rw [work, takeWords_succ, if_neg hpos] at hwork
        cases hwork
        exact ⟨_, .erase (Or.inr hpos), rfl⟩
  | clearing tail header fuel pos word taken =>
    cases hwork
    exact ⟨_, .clear, rfl⟩
  | passing tail header taken =>
    cases hwork
    exact ⟨_, .pass, rfl⟩
  | returning answer => cases hwork

theorem eq_idle_of_work {stage : Reading} (hwork : stage.work = none) : stage = idle := by
  cases stage with
  | idle => rfl
  | _ => cases hwork

theorem eq_returning_of_work {stage : Reading} {answer : Option (List UInt8)}
    (hwork : stage.work = some (.done answer)) : stage = returning answer := by
  cases stage with
  | taking tail header fuel pos taken =>
    cases fuel with
    | zero => cases hwork
    | succ fuel =>
      by_cases hpos : pos < stop tail header
      · rw [work, takeWords_succ, if_pos hpos] at hwork
        cases hwork
      · rw [work, takeWords_succ, if_neg hpos] at hwork
        cases hwork
  | returning answer' =>
    cases hwork
    rfl
  | _ => cases hwork

end Reading

end PortKnock.Ring
