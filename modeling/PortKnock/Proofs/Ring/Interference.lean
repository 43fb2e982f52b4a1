import PortKnock.Proofs.Ring.Measures

/-!
# Reserving while others reserve and read

A writer that reserves room looks at one counter after the other, and everything
may have changed in between.  Nothing is assumed of the others here but what the
positions promise to everybody (`Fair`): they never go back, they are never more
than one round apart, and they do not run over.  Whatever else the others do,
and however often they come in between, the result of a reservation says
something true about one moment of the call (`Justified`):

* a position that was won was the producer position at the winning swap, and
  there was room behind it;
* a ring that is called full was full when the reader's position was loaded;
* a call that gives up has been beaten once per attempt.

## Strategy

* **Two looks are one stretch apart.**  `Amid.first` cuts a run at the next request
  of the call itself.  `Meanwhile` says what may have happened before it, and in
  particular that a producer position that has moved was moved by somebody who
  won a reservation.
* **A stale head does no harm.**  It may lie below the reader's position, and the
  room in use is underestimated then; but the producer position has moved past it
  in that case, so that the swap is lost (`justified_reserveFrom`).
-/

namespace PortKnock.Ring

open Access

/-! ## Runs that others come in between -/

/-- A request that was performed. -/
structure Event where
  /-- Whether the call itself made the request. -/
  own : Bool
  request : Request
  /-- The ring as the request found it. -/
  before : Ring

namespace Event

/-- The ring as the request left it. -/
def after (event : Event) : Ring :=
  (event.before.perform event.request).2

/-- Whether somebody else has won a reservation: nothing but a swap moves the producer position
on. -/
def isRival (event : Event) : Bool :=
  !event.own && decide (event.before.producerPos < event.after.producerPos)

end Event

/-- Reservations that others have won. -/
def rivals (events : List Event) : Nat :=
  events.countP Event.isRival

/-- The last request of the call itself. -/
def lastOwn (events : List Event) : Option Event :=
  (events.filter Event.own).getLast?

/-- The call itself has changed nothing. -/
def Untouched (events : List Event) : Prop :=
  ∀ event ∈ events, event.own = true → event.after = event.before

/-- The positions are in order, no more than one round apart, and more than one round away from the
end of their range. -/
structure InRange (ring : Ring) : Prop where
  consumer_le : ring.consumerPos.toNat ≤ ring.producerPos.toNat
  producer_le : ring.producerPos.toNat ≤ ring.consumerPos.toNat + ring.byteSize.toNat
  producer_lt : ring.producerPos.toNat + ring.byteSize.toNat < 2 ^ 64

/-- What others may do: any request after which neither position has gone back and both are still
in range. -/
structure Fair (ring : Ring) (request : Request) : Prop where
  producer_le : ring.producerPos.toNat ≤ (ring.perform request).2.producerPos.toNat
  consumer_le : ring.consumerPos.toNat ≤ (ring.perform request).2.consumerPos.toNat
  inRange : (ring.perform request).2.InRange

/-- A run of a piece of work from a ring on, with any requests of others in between: all requests
in their order, and the result. -/
inductive Amid {α : Type} : Access α → Ring → List Event → α → Prop
  | done {ring : Ring} {result : α} : Amid (.done result) ring [] result
  | own {ring : Ring} {request : Request} {next : request.Reply → Access α} {events : List Event}
      {result : α} (rest : Amid (next (ring.perform request).1) (ring.perform request).2 events
        result) :
    Amid (.request request next) ring (⟨true, request, ring⟩ :: events) result
  | other {work : Access α} {ring : Ring} {request : Request} {events : List Event} {result : α}
      (fair : ring.Fair request) (rest : Amid work (ring.perform request).2 events result) :
    Amid work ring (⟨false, request, ring⟩ :: events) result

/-! ## Until the next own request -/

variable {ring ring' ring'' : Ring} {request : Request} {events earlier others others' : List Event}

/-- What has become of the ring while only others made requests. -/
structure Meanwhile (ring : Ring) (others : List Event) (ring' : Ring) : Prop where
  foreign : ∀ event ∈ others, event.own = false
  byteSize_eq : ring'.byteSize = ring.byteSize
  producer_le : ring.producerPos.toNat ≤ ring'.producerPos.toNat
  consumer_le : ring.consumerPos.toNat ≤ ring'.consumerPos.toNat
  inRange : ring'.InRange
  /-- Only a reservation moves the producer position. -/
  rivals_pos : ring'.producerPos ≠ ring.producerPos → 0 < rivals others

theorem Meanwhile.refl (hrange : ring.InRange) : Meanwhile ring [] ring where
  foreign := by simp
  byteSize_eq := rfl
  producer_le := Nat.le_refl _
  consumer_le := Nat.le_refl _
  inRange := hrange
  rivals_pos := fun hne => absurd rfl hne

/-- One request of another party first. -/
theorem Meanwhile.cons (fair : ring.Fair request)
    (later : Meanwhile (ring.perform request).2 others ring') :
    Meanwhile ring (⟨false, request, ring⟩ :: others) ring' where
  foreign := by
    intro event hevent
    rcases List.mem_cons.mp hevent with rfl | hevent
    · rfl
    · exact later.foreign event hevent
  byteSize_eq := by rw [later.byteSize_eq, byteSize_perform]
  producer_le := Nat.le_trans fair.producer_le later.producer_le
  consumer_le := Nat.le_trans fair.consumer_le later.consumer_le
  inRange := later.inRange
  rivals_pos := by
    intro hne
    rw [rivals, List.countP_cons]
    by_cases hsame : (ring.perform request).2.producerPos = ring.producerPos
    · have hlater : 0 < rivals others := later.rivals_pos (by rw [hsame]; exact hne)
      exact Nat.lt_of_lt_of_le hlater (Nat.le_add_right _ _)
    · -- the position has moved, and it never goes back
      have hmoved : ring.producerPos < (ring.perform request).2.producerPos := by
        have hle := fair.producer_le
        have hdiff := mt UInt64.toNat_inj.mp hsame
        rw [UInt64.lt_iff_toNat_lt]
        omega
      have hrival : Event.isRival ⟨false, request, ring⟩ = true := by
        simp only [Event.isRival, Event.after, Bool.not_false, Bool.true_and]
        exact decide_eq_true hmoved
      rw [if_pos hrival]
      exact Nat.succ_pos _

theorem filter_own_of_foreign (hforeign : ∀ event ∈ others, event.own = false) :
    others.filter Event.own = [] :=
  List.filter_eq_nil_iff.mpr fun event hevent => by simp [hforeign event hevent]

theorem untouched_of_foreign (hforeign : ∀ event ∈ others, event.own = false) :
    Untouched others := by
  intro event hevent hown
  rw [hforeign event hevent] at hown
  cases hown

theorem Untouched.append (huntouched : Untouched earlier) (huntouched' : Untouched events) :
    Untouched (earlier ++ events) := by
  intro event hevent hown
  rcases List.mem_append.mp hevent with hevent | hevent
  · exact huntouched event hevent hown
  · exact huntouched' event hevent hown

theorem rivals_append (earlier events : List Event) :
    rivals (earlier ++ events) = rivals earlier + rivals events :=
  List.countP_append

/-- Up to and including a request of the call that changes nothing. -/
theorem Meanwhile.untouched (later : Meanwhile ring others ring') (request : Request)
    (hsame : (ring'.perform request).2 = ring') :
    Untouched (others ++ [⟨true, request, ring'⟩]) := by
  refine (untouched_of_foreign later.foreign).append ?_
  intro event hevent _
  rw [List.mem_singleton.mp hevent]
  exact hsame

/-- Requests of the call are no rivals of it. -/
theorem rivals_concat_own (others : List Event) (request : Request) (ring : Ring) :
    rivals (others ++ [⟨true, request, ring⟩]) = rivals others := by
  simp [rivals, Event.isRival]

section Cutting

variable {α : Type} {work : Access α} {result : α}

/-- Before the next request of its own, a run is made of the others' requests alone. -/
theorem Amid.first {next : request.Reply → Access α} (hrun : Amid work ring events result)
    (hwork : work = .request request next) (hrange : ring.InRange) :
    ∃ others ring' events', events = others ++ ⟨true, request, ring'⟩ :: events' ∧
      Meanwhile ring others ring' ∧
      Amid (next (ring'.perform request).1) (ring'.perform request).2 events' result := by
  induction hrun with
  | done => cases hwork
  | @own ring _ _ events _ rest =>
    cases hwork
    exact ⟨[], ring, events, rfl, .refl hrange, rest⟩
  | other fair _ ih =>
    obtain ⟨others, ring', events', rfl, later, rest⟩ := ih hwork fair.inRange
    exact ⟨_, ring', events', rfl, later.cons fair, rest⟩

/-- Work that is done makes no request any more. -/
theorem Amid.of_done {answer : α} (hrun : Amid work ring events result)
    (hwork : work = .done answer) :
    result = answer ∧ ∀ event ∈ events, event.own = false := by
  induction hrun with
  | done =>
    cases hwork
    exact ⟨rfl, by simp⟩
  | own => cases hwork
  | other _ _ ih =>
    obtain ⟨hresult, hforeign⟩ := ih hwork
    refine ⟨hresult, fun event hevent => ?_⟩
    rcases List.mem_cons.mp hevent with rfl | hevent
    · rfl
    · exact hforeign event hevent

end Cutting

/-! ## What a result says -/

variable {size total : UInt64} {attempts : Nat} {result : Except Refusal UInt64}

/-- The result of an attempt to reserve `total` octets of `size` is true of the requests that were
made meanwhile, the call's own ones and those of others. -/
def Justified (size total : UInt64) (attempts : Nat) (events : List Event) :
    Except Refusal UInt64 → Prop
  | .ok pos => ∃ event, lastOwn events = some event ∧
      event.request = .swapProducer pos (pos + total) ∧ event.before.producerPos = pos ∧
      event.after.producerPos.toNat = pos.toNat + total.toNat ∧
      pos.toNat + total.toNat ≤ event.before.consumerPos.toNat + size.toNat
  | .error .full => (∃ event, lastOwn events = some event ∧ event.request = .loadConsumer ∧
      event.before.consumerPos.toNat + size.toNat <
        event.before.producerPos.toNat + total.toNat) ∧ Untouched events
  | .error .contended => attempts ≤ rivals events ∧ Untouched events
  | .error .tooLarge | .error .empty => False

/-- What happened earlier in the call makes no difference, as far as it changed nothing; attempts
that were lost then are made up for by the rivals of that time. -/
theorem Justified.append {more : Nat} (justified : Justified size total attempts events result)
    (huntouched : Untouched earlier) (hmore : more ≤ rivals earlier + attempts) :
    Justified size total more (earlier ++ events) result := by
  have hlast : ∀ event, lastOwn events = some event → lastOwn (earlier ++ events) = some event := by
    intro event hevent
    rw [lastOwn, List.filter_append, List.getLast?_append]
    rw [lastOwn] at hevent
    rw [hevent, Option.some_or]
  cases result with
  | ok pos =>
    obtain ⟨event, hevent, hrest⟩ := justified
    exact ⟨event, hlast event hevent, hrest⟩
  | error refusal =>
    cases refusal with
    | full =>
      obtain ⟨⟨event, hevent, hrest⟩, huntouched'⟩ := justified
      exact ⟨⟨event, hlast event hevent, hrest⟩, huntouched.append huntouched'⟩
    | contended =>
      obtain ⟨hrivals, huntouched'⟩ := justified
      refine ⟨?_, huntouched.append huntouched'⟩
      rw [rivals_append]
      omega
    | tooLarge => exact justified.elim
    | empty => exact justified.elim

/-- What is left of an attempt once the swap is answered. -/
def settle (size total : UInt64) (attempts : Nat) (head : UInt64) :
    Option UInt64 → Access (Except Refusal UInt64)
  | none => .done (.ok head)
  | some current => reserveFrom size total attempts current

/-- What is left of an attempt once the reader's position is known. -/
def claim (size total : UInt64) (attempts : Nat) (head tail : UInt64) :
    Access (Except Refusal UInt64) :=
  if distance head tail + total > size then .done (.error .full)
  else .request (.swapProducer head (head + total)) (settle size total attempts head)

theorem reserveFrom_eq_request (size total : UInt64) (attempts : Nat) (head : UInt64) :
    reserveFrom size total (attempts + 1) head =
      .request .loadConsumer (claim size total attempts head) := by
  refine congrArg (Access.request _) (funext fun tail => ?_)
  unfold claim
  show (if distance head tail + total > size then (_ : Access _) else _) = _
  split
  · rfl
  · refine congrArg (Access.request _) (funext fun reply => ?_)
    cases reply <;> rfl

/-- The last request of a call is the last one of all that others did not make. -/
theorem lastOwn_append_cons (earlier : List Event) (event : Event) (hown : event.own = true)
    (hforeign : ∀ event ∈ others, event.own = false) :
    lastOwn (earlier ++ event :: others) = some event := by
  rw [lastOwn, List.filter_append, List.filter_cons_of_pos hown, filter_own_of_foreign hforeign,
    List.getLast?_concat]

section Attempts

variable (hsize : size.toNat ≤ 2 ^ 62) (htotal : total.toNat ≤ size.toNat)
include hsize htotal

/-- No room is missed: if a head that was up to date at some time seems to leave no room, then there
is none behind the producer position either. -/
theorem full_of_distance {head : UInt64} (hrange : ring.InRange) (hbyteSize : ring.byteSize = size)
    (hhead : head.toNat ≤ ring.producerPos.toNat)
    (hfull : distance head ring.consumerPos + total > size) :
    ring.consumerPos.toNat + size.toNat < ring.producerPos.toNat + total.toNat := by
  have hconsumer := hrange.consumer_le
  have hproducer := hrange.producer_le
  rw [gt_iff_lt, UInt64.lt_iff_toNat_lt, UInt64.toNat_add, toNat_distance] at hfull
  rw [hbyteSize] at hproducer
  omega

/-- Room is not invented: if a head seems to leave room and is still the producer position when the
reader has moved on, then there is room. -/
theorem room_of_distance {head tail : UInt64} (hrange : ring.InRange)
    (hhead : ring.producerPos = head) (htail : tail.toNat ≤ ring.consumerPos.toNat)
    (hround : head.toNat ≤ tail.toNat + size.toNat)
    (hroom : ¬ distance head tail + total > size) :
    head.toNat + total.toNat ≤ ring.consumerPos.toNat + size.toNat := by
  have hconsumer := hrange.consumer_le
  rw [gt_iff_lt, UInt64.lt_iff_toNat_lt, UInt64.toNat_add, toNat_distance] at hroom
  rw [hhead] at hconsumer
  omega

/-- A swap that wins speaks for the whole call. -/
theorem justified_of_win {head : UInt64} (attempts : Nat) (hhead : ring.producerPos = head)
    (hrange : ring.InRange) (hbyteSize : ring.byteSize = size)
    (hroom : head.toNat + total.toNat ≤ ring.consumerPos.toNat + size.toNat)
    (hforeign : ∀ event ∈ others, event.own = false) :
    Justified size total attempts (⟨true, .swapProducer head (head + total), ring⟩ :: others)
      (.ok head) := by
  have hlt := hrange.producer_lt
  have hafter : (Event.after ⟨true, .swapProducer head (head + total), ring⟩).producerPos =
      head + total := by
    simp [Event.after, perform, hhead]
  refine ⟨_, lastOwn_append_cons [] _ rfl hforeign, rfl, hhead, ?_, hroom⟩
  rw [hafter, UInt64.toNat_add]
  rw [hhead, hbyteSize] at hlt
  omega

/-- The swap of an attempt, and all attempts behind it.  If the head was up to date before the swap,
then somebody has won since in case it is lost, which makes up for the attempt. -/
theorem justified_swap {head tail : UInt64}
    (ih : ∀ {ring : Ring} {events : List Event}, ring.InRange → ring.byteSize = size →
      Amid (reserveFrom size total attempts ring.producerPos) ring events result →
        Justified size total attempts events result)
    (hrange : ring.InRange) (hbyteSize : ring.byteSize = size)
    (htail : tail.toNat ≤ ring.consumerPos.toNat) (hround : head.toNat ≤ tail.toNat + size.toNat)
    (hroom : ¬ distance head tail + total > size)
    (hrun : Amid (.request (.swapProducer head (head + total)) (settle size total attempts head))
      ring events result) :
    Justified size total (if ring.producerPos = head then attempts + 1 else attempts) events
      result := by
  obtain ⟨others, ring', events', rfl, later, hrest⟩ := hrun.first rfl hrange
  have hbyteSize' : ring'.byteSize = size := later.byteSize_eq.trans hbyteSize
  by_cases hwin : ring'.producerPos = head
  · -- won: the room behind the head is free, since the reader has not gone back
    have hperform : ring'.perform (.swapProducer head (head + total)) =
        (none, { ring' with producerPos := head + total }) := if_pos hwin
    rw [hperform] at hrest
    obtain ⟨rfl, hforeign⟩ := hrest.of_done rfl
    have hroom' := room_of_distance hsize htotal later.inRange hwin
      (Nat.le_trans htail later.consumer_le) hround hroom
    have justified := justified_of_win hsize htotal (attempts + 1) hwin later.inRange hbyteSize'
      hroom' hforeign
    refine justified.append (untouched_of_foreign later.foreign) ?_
    split <;> omega
  · -- lost: what is left is one attempt less, with a head that is up to date
    have hperform : ring'.perform (.swapProducer head (head + total)) =
        (some ring'.producerPos, ring') := if_neg hwin
    have hlost := later.untouched _ (congrArg Prod.snd hperform)
    rw [hperform] at hrest
    have justified := ih later.inRange hbyteSize' hrest
    rw [List.append_cons]
    refine justified.append hlost ?_
    rw [rivals_concat_own]
    split
    · rename_i hhead
      have hrivals := later.rivals_pos (by rw [hhead]; exact hwin)
      omega
    · exact Nat.le_add_left _ _

/-- Attempts that start from a head that is up to date. -/
theorem justified_reserveFrom (attempts : Nat) {ring : Ring} {events : List Event}
    (hrange : ring.InRange) (hbyteSize : ring.byteSize = size)
    (hrun : Amid (reserveFrom size total attempts ring.producerPos) ring events result) :
    Justified size total attempts events result := by
  induction attempts generalizing ring events with
  | zero =>
    obtain ⟨rfl, hforeign⟩ := hrun.of_done rfl
    exact ⟨Nat.zero_le _, untouched_of_foreign hforeign⟩
  | succ attempts ih =>
    generalize hhead : ring.producerPos = head at hrun
    obtain ⟨others, ring', events', rfl, later, hrest⟩ :=
      hrun.first (reserveFrom_eq_request size total attempts head) hrange
    replace hrest : Amid (claim size total attempts head ring'.consumerPos) ring' events' result :=
      hrest
    have hbyteSize' : ring'.byteSize = size := later.byteSize_eq.trans hbyteSize
    have hhead' : head.toNat ≤ ring'.producerPos.toNat := hhead ▸ later.producer_le
    have hload := later.untouched .loadConsumer rfl
    rw [List.append_cons]
    by_cases hfull : distance head ring'.consumerPos + total > size
    · obtain ⟨rfl, hforeign⟩ := hrest.of_done (if_pos hfull)
      have hlast := lastOwn_append_cons others ⟨true, .loadConsumer, ring'⟩ rfl hforeign
      rw [List.append_cons] at hlast
      refine ⟨⟨_, hlast, rfl, ?_⟩, hload.append (untouched_of_foreign hforeign)⟩
      exact full_of_distance hsize htotal later.inRange hbyteSize' hhead' hfull
    · rw [claim, if_neg hfull] at hrest
      have hround : head.toNat ≤ ring'.consumerPos.toNat + size.toNat := by
        have := later.inRange.producer_le
        rw [hbyteSize'] at this
        omega
      have justified := justified_swap hsize htotal ih later.inRange hbyteSize' (Nat.le_refl _)
        hround hfull hrest
      refine justified.append hload ?_
      rw [rivals_concat_own]
      split
      · exact Nat.le_add_left _ _
      · -- the position has moved since the head was loaded
        rename_i hmoved
        have hrivals := later.rivals_pos (by rw [hhead]; exact hmoved)
        omega

end Attempts

/-- Whatever the others do in between, as long as they are fair: the result of a reservation is true
of the requests that were made meanwhile. -/
theorem reserveWithin_amid (hsize : ring.byteSize.toNat ≤ 2 ^ 62)
    (htotal : total.toNat ≤ ring.byteSize.toNat) (hrange : ring.InRange)
    (hrun : Amid (reserveWithin ring.byteSize total attempts) ring events result) :
    Justified ring.byteSize total attempts events result := by
  obtain ⟨others, ring', events', rfl, later, hrest⟩ :=
    hrun.first (show reserveWithin ring.byteSize total attempts =
      .request .loadProducer (reserveFrom ring.byteSize total attempts) from rfl) hrange
  have justified :=
    justified_reserveFrom hsize htotal attempts later.inRange later.byteSize_eq hrest
  rw [List.append_cons]
  exact justified.append (later.untouched .loadProducer rfl) (Nat.le_add_left _ _)

/-- Somebody fills the ring and the reader empties it while the call only knows where the producer
was before: its head lies below the reader's position, so the first swap is lost, and the second
one wins the room behind. -/
theorem reserveWithin_amid_of_stale_head :
    let ring : Ring := { words := #[0, 0], byteSize := 16 }
    let filled : Ring := { ring with producerPos := 16 }
    let emptied : Ring := { filled with consumerPos := 16 }
    let events : List Event := [⟨true, .loadProducer, ring⟩, ⟨false, .swapProducer 0 16, ring⟩,
      ⟨false, .storeConsumer 16, filled⟩, ⟨true, .loadConsumer, emptied⟩,
      ⟨true, .swapProducer 0 16, emptied⟩, ⟨true, .loadConsumer, emptied⟩,
      ⟨true, .swapProducer 16 32, emptied⟩]
    ring.byteSize.toNat ≤ 2 ^ 62 ∧ ring.InRange ∧
      Amid (reserveWithin ring.byteSize 16 2) ring events (.ok 16) ∧
      Justified ring.byteSize 16 2 events (.ok 16) := by
  intro ring filled emptied events
  have hrange : ring.InRange := ⟨by decide, by decide, by decide⟩
  have hfill : ring.Fair (.swapProducer 0 16) :=
    ⟨by decide, by decide, by decide, by decide, by decide⟩
  have hempty : filled.Fair (.storeConsumer 16) :=
    ⟨by decide, by decide, by decide, by decide, by decide⟩
  have hsecond : Amid (reserveFrom 16 16 1 16) emptied (events.drop 5) (.ok 16) := by
    rw [reserveFrom_eq_request]
    refine .own ?_
    show Amid (claim 16 16 0 16 16) emptied (events.drop 6) (.ok 16)
    rw [claim, if_neg (by decide)]
    exact .own .done
  have hfirst : Amid (claim 16 16 1 0 16) emptied (events.drop 4) (.ok 16) := by
    rw [claim, if_neg (by decide)]
    exact .own hsecond
  have hrun : Amid (reserveWithin ring.byteSize 16 2) ring events (.ok 16) := by
    refine .own (.other hfill (.other hempty ?_))
    show Amid (reserveFrom 16 16 2 0) emptied (events.drop 3) (.ok 16)
    rw [reserveFrom_eq_request]
    exact .own hfirst
  exact ⟨by decide, hrange, hrun, reserveWithin_amid (by decide) (by decide) hrange hrun⟩

end PortKnock.Ring
