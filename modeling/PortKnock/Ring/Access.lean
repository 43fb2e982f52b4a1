import PortKnock.Ring.Basic

/-!
# Atomic access to the ring

Writers and the reader touch the ring through eight kinds of requests, each of
which is one indivisible action on one word or one counter.  What a writer or
the reader does is an `Access`: a tree of requests in which every next step may
depend on the replies so far.

Because the code is kept as such a tree, it can be run in two ways.  `run`
performs all its requests at once, as in a run in which calls do not overlap;
`step` performs the first one only, so that the requests of several calls can
be interleaved in any order.
-/

namespace PortKnock.Ring

/-- One indivisible action on the ring. -/
inductive Request
  | loadProducer
  | loadConsumer
  /-- Moves the producer position to `desired` if it is still `expected`. -/
  | swapProducer (expected desired : UInt64)
  | loadWord (pos : UInt64)
  | storeWord (pos value : UInt64)
  | storeConsumer (pos : UInt64)
  /-- Asks for a wakeup of the reader. -/
  | signal
  /-- Takes back all wakeups asked for so far. -/
  | reset
  deriving DecidableEq, Repr

/-- What a request is answered with.  A swap that lost is answered with the position that it
found instead of the expected one. -/
abbrev Request.Reply : Request → Type
  | .loadProducer | .loadConsumer | .loadWord _ => UInt64
  | .swapProducer _ _ => Option UInt64
  | .storeWord _ _ | .storeConsumer _ | .signal | .reset => Unit

/-- Performs one request. -/
def perform (ring : Ring) : (request : Request) → request.Reply × Ring
  | .loadProducer => (ring.producerPos, ring)
  | .loadConsumer => (ring.consumerPos, ring)
  | .swapProducer expected desired =>
    if ring.producerPos = expected then (none, { ring with producerPos := desired })
    else (some ring.producerPos, ring)
  | .loadWord pos => (ring.word pos, ring)
  | .storeWord pos value =>
    let slot := ring.slot pos
    ((), { ring with words := ring.words.setIfInBounds slot value })
  | .storeConsumer pos => ((), { ring with consumerPos := pos })
  | .signal => ((), { ring with ready := true })
  | .reset => ((), { ring with ready := false })

/-- A piece of work on the ring that ends in a result. -/
inductive Access (α : Type) : Type
  | done (result : α)
  | request (request : Request) (next : request.Reply → Access α)

namespace Access

variable {α β : Type}

protected def bind : Access α → (α → Access β) → Access β
  | done result, then_ => then_ result
  | request q next, then_ => request q fun reply => (next reply).bind then_

instance : Monad Access where
  pure := done
  bind := Access.bind

/-- Performs all requests, one after the other. -/
def run : Access α → Ring → α × Ring
  | done result, ring => (result, ring)
  | request q next, ring =>
    match ring.perform q with
    | (reply, ring) => (next reply).run ring

/-- Performs the first request only; finished work stays as it is. -/
def step : Access α → Ring → Access α × Ring
  | done result, ring => (done result, ring)
  | request q next, ring =>
    match ring.perform q with
    | (reply, ring) => (next reply, ring)

@[simp] theorem bind_done (result : α) (then_ : α → Access β) :
    (done result).bind then_ = then_ result := rfl

/-! ### The requests as work of their own -/

def loadProducer : Access UInt64 := request .loadProducer done

def loadConsumer : Access UInt64 := request .loadConsumer done

def swapProducer (expected desired : UInt64) : Access (Option UInt64) :=
  request (.swapProducer expected desired) done

def loadWord (pos : UInt64) : Access UInt64 := request (.loadWord pos) done

def storeWord (pos value : UInt64) : Access Unit := request (.storeWord pos value) done

def storeConsumer (pos : UInt64) : Access Unit := request (.storeConsumer pos) done

def signal : Access Unit := request .signal done

def reset : Access Unit := request .reset done

/-! ### Running composed work -/

@[simp] theorem run_pure (result : α) (ring : Ring) :
    (pure result : Access α).run ring = (result, ring) := rfl

@[simp] theorem run_bind (work : Access α) (then_ : α → Access β) (ring : Ring) :
    (work >>= then_).run ring = (then_ (work.run ring).1).run (work.run ring).2 := by
  show (work.bind then_).run ring = _
  induction work generalizing ring with
  | done result => rfl
  | request q next ih => simp [Access.bind, run, ih]

@[simp] theorem run_map (f : α → β) (work : Access α) (ring : Ring) :
    (f <$> work).run ring = (f (work.run ring).1, (work.run ring).2) :=
  run_bind work (fun result => pure (f result)) ring

@[simp] theorem run_loadProducer (ring : Ring) :
    loadProducer.run ring = (ring.producerPos, ring) := rfl

@[simp] theorem run_loadConsumer (ring : Ring) :
    loadConsumer.run ring = (ring.consumerPos, ring) := rfl

@[simp] theorem run_loadWord (pos : UInt64) (ring : Ring) :
    (loadWord pos).run ring = (ring.word pos, ring) := rfl

@[simp] theorem run_storeConsumer (pos : UInt64) (ring : Ring) :
    (storeConsumer pos).run ring = ((), { ring with consumerPos := pos }) := rfl

@[simp] theorem run_signal (ring : Ring) :
    signal.run ring = ((), { ring with ready := true }) := rfl

@[simp] theorem run_reset (ring : Ring) :
    reset.run ring = ((), { ring with ready := false }) := rfl

/-- A swap that finds what it expects always wins. -/
@[simp] theorem run_swapProducer_self (desired : UInt64) (ring : Ring) :
    (swapProducer ring.producerPos desired).run ring
      = (none, { ring with producerPos := desired }) := by
  simp [swapProducer, run, perform]

/-- Taking one step first makes no difference to a run. -/
theorem run_step (work : Access α) (ring : Ring) :
    (work.step ring).1.run (work.step ring).2 = work.run ring := by
  cases work <;> rfl

end Access

end PortKnock.Ring
