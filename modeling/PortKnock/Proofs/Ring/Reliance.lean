import PortKnock.Proofs.Ring.Layout
import PortKnock.Proofs.Ring.Stages

/-!
# What the parties rely on

Every stage of a call comes with something that holds of the ring and the
history as long as the call is in it (`Writing.Sound`, `Reading.Sound`): a writer
that copies a payload has won a reservation that is not complete, and what it
has copied so far is still there; a reader that takes a record has found it
complete, and what it has not taken yet is what the writer meant.

None of this is in danger from the others, since each party keeps to its own
words.  `Beside` states what one request leaves alone, and the two lemmas on it
say that this is all the others rely on.  How a party's own requests lead from
one sound stage to the next is the subject of `PortKnock.Proofs.Ring.Progress`.
-/

namespace PortKnock.Ring

/-! ## Sound stages -/

/-- What the stage of a call of `output` stands for, given the place that the call has won. -/
inductive Writing.Sound (ring : Ring) (log : List Reservation) (data : List UInt8)
    (flags : UInt64) : Writing → Option Nat → Prop
  | arriving (hdata : Admissible ring.byteSize data) :
    Sound ring log data flags .arriving none
  | measuring {more : Nat} {head : UInt64} (hdata : Admissible ring.byteSize data)
      (hhead : head.toNat ≤ ring.producerPos.toNat) :
    Sound ring log data flags (.measuring more head) none
  /-- There was room, and the reader never takes room back. -/
  | claiming {more : Nat} {head : UInt64} (hdata : Admissible ring.byteSize data)
      (hroom : head.toNat + footprint data.length ≤
        ring.consumerPos.toNat + ring.byteSize.toNat) :
    Sound ring log data flags (.claiming more head) none
  | copying {k : Nat} {pos next : UInt64} {done rest : List UInt64}
      (hk : log[k]? = some ⟨data, flags, pos, false⟩) (hsplit : payloadWords data = done ++ rest)
      (hnext : next.toNat = 8 * (start log k + 1 + done.length))
      (hcopied : Copied ring log k done) :
    Sound ring log data flags (.copying pos next rest) (some k)
  | deciding {k : Nat} {pos : UInt64} (hk : log[k]? = some ⟨data, flags, pos, true⟩) :
    Sound ring log data flags (.deciding pos) (some k)
  | signalling {k : Nat} {pos : UInt64} (hk : log[k]? = some ⟨data, flags, pos, true⟩) :
    Sound ring log data flags .signalling (some k)
  | refused {refusal : Refusal} :
    Sound ring log data flags (.finished (.error refusal)) none
  | written {k : Nat} {pos : UInt64} (hk : log[k]? = some ⟨data, flags, pos, true⟩) :
    Sound ring log data flags (.finished (.ok ())) (some k)

/-- Words of the record in hand that the reader has cleared. -/
def Reading.gone : Reading → Nat → Prop
  | .taking _ _ _ _ taken | .clearing _ _ _ _ _ taken => fun o => 0 < o ∧ o ≤ taken.length
  | .passing _ _ taken => fun o => o ≤ taken.length
  | _ => fun _ => False

/-- Records that the reader has passed and not handed out. -/
def Reading.ahead : Reading → Nat
  | .returning (some _) => 1
  | _ => 0

/-- What the stage of the reader stands for when it has handed out the first `count` records. -/
inductive Reading.Sound (ring : Ring) (log : List Reservation) (count : Nat) : Reading → Prop
  | idle : Sound ring log count .idle
  | locating : Sound ring log count .locating
  | looking : Sound ring log count (.looking ring.consumerPos)
  | resetting : Sound ring log count (.resetting ring.consumerPos)
  | lookingAgain : Sound ring log count (.lookingAgain ring.consumerPos)
  | taking {r : Reservation} {fuel : Nat} {pos : UInt64} {taken rest : List UInt64}
      (hk : log[count]? = some r) (hcommitted : r.committed = true)
      (hsplit : payloadWords r.data = taken.reverse ++ rest)
      (hpos : pos.toNat = 8 * (start log count + 1 + taken.length)) (hfuel : rest.length < fuel) :
    Sound ring log count (.taking ring.consumerPos r.header fuel pos taken)
  | clearing {r : Reservation} {fuel : Nat} {pos word : UInt64} {taken rest : List UInt64}
      (hk : log[count]? = some r) (hcommitted : r.committed = true)
      (hsplit : payloadWords r.data = taken.reverse ++ word :: rest)
      (hpos : pos.toNat = 8 * (start log count + 1 + taken.length)) (hfuel : rest.length < fuel) :
    Sound ring log count (.clearing ring.consumerPos r.header fuel pos word taken)
  | passing {r : Reservation} {taken : List UInt64}
      (hk : log[count]? = some r) (hcommitted : r.committed = true)
      (hsplit : payloadWords r.data = taken.reverse) :
    Sound ring log count (.passing ring.consumerPos r.header taken)
  | returningNone : Sound ring log count (.returning none)
  | returning {r : Reservation} (hk : log[count]? = some r) (hcommitted : r.committed = true) :
    Sound ring log count (.returning (some r.data))

/-! ## What the others leave alone -/

/-- What a request leaves alone: everything that is promised about records other than `own`, which
is a reservation that is not complete. -/
structure Beside (own : Option Nat) (ring : Ring) (log : List Reservation) (ring' : Ring)
    (log' : List Reservation) : Prop where
  own_pending : ∀ k, own = some k → ∃ r, log[k]? = some r ∧ r.committed = false
  byteSize_eq : ring'.byteSize = ring.byteSize
  producer_le : ring.producerPos.toNat ≤ ring'.producerPos.toNat
  consumer_le : ring.consumerPos.toNat ≤ ring'.consumerPos.toNat
  start_eq : ∀ k < log.length, start log' k = start log k
  kept : ∀ k r, log[k]? = some r → own ≠ some k → log'[k]? = some r
  untouched : ∀ k r o, log[k]? = some r → r.committed = false → own ≠ some k → o < r.words →
    ring'.cell (start log k + o) = ring.cell (start log k + o)
  data_prefix : log.map Reservation.data <+: log'.map Reservation.data

variable {own place : Option Nat} {ring ring' : Ring} {log log' : List Reservation}
variable {data : List UInt8} {flags : UInt64} {k : Nat} {r : Reservation}

theorem Beside.start_eq_of_getElem? (beside : Beside own ring log ring' log')
    (hk : log[k]? = some r) : start log' k = start log k :=
  beside.start_eq k (List.getElem?_eq_some_iff.mp hk).1

/-- A writer relies on nothing else. -/
theorem Writing.Sound.beside {stage : Writing} (sound : stage.Sound ring log data flags place)
    (beside : Beside own ring log ring' log') (hplace : ∀ k, place = some k → own ≠ some k) :
    stage.Sound ring' log' data flags place := by
  have hdata : ∀ {data}, Admissible ring.byteSize data → Admissible ring'.byteSize data := by
    intro data hdata
    rw [beside.byteSize_eq]
    exact hdata
  cases sound with
  | arriving hadmissible => exact .arriving (hdata hadmissible)
  | measuring hadmissible hhead =>
    exact .measuring (hdata hadmissible) (Nat.le_trans hhead beside.producer_le)
  | claiming hadmissible hroom =>
    refine .claiming (hdata hadmissible) (Nat.le_trans hroom ?_)
    rw [beside.byteSize_eq]
    exact Nat.add_le_add_right beside.consumer_le _
  | @copying k pos next done rest hk hsplit hnext hcopied =>
    -- the record is not the one that the request was about, so its words are where they were
    have hother := hplace k rfl
    have hstart := beside.start_eq_of_getElem? hk
    refine .copying (beside.kept k _ hk hother) hsplit (by rw [hstart]; exact hnext) ?_
    intro i w hw
    have hi : 1 + i < wordsFor data.length := by
      have hlt := (List.getElem?_eq_some_iff.mp hw).1
      rw [← length_payloadWords_add_one, hsplit, List.length_append]
      omega
    rw [hstart, Nat.add_assoc, beside.untouched k _ (1 + i) hk rfl hother hi, ← Nat.add_assoc]
    exact hcopied i w hw
  | deciding hk => exact .deciding (beside.kept _ _ hk (hplace _ rfl))
  | signalling hk => exact .signalling (beside.kept _ _ hk (hplace _ rfl))
  | refused => exact .refused
  | written hk => exact .written (beside.kept _ _ hk (hplace _ rfl))

/-- A complete record stays as it is. -/
theorem Beside.kept_of_committed (beside : Beside own ring log ring' log')
    (hk : log[k]? = some r) (hcommitted : r.committed = true) : log'[k]? = some r := by
  apply beside.kept k r hk
  intro hown
  obtain ⟨r', hr', hpending⟩ := beside.own_pending k hown
  exact ne_of_committed hr' hk hpending hcommitted rfl

/-- The reader relies on nothing else, except that nobody moves it. -/
theorem Reading.Sound.beside {count : Nat} {stage : Reading} (sound : stage.Sound ring log count)
    (beside : Beside own ring log ring' log') (hconsumer : ring'.consumerPos = ring.consumerPos) :
    stage.Sound ring' log' count := by
  cases sound with
  | idle => exact .idle
  | locating => exact .locating
  | looking => exact hconsumer ▸ .looking
  | resetting => exact hconsumer ▸ .resetting
  | lookingAgain => exact hconsumer ▸ .lookingAgain
  | taking hk hcommitted hsplit hpos hfuel =>
    rw [← beside.start_eq_of_getElem? hk] at hpos
    rw [← hconsumer]
    exact .taking (beside.kept_of_committed hk hcommitted) hcommitted hsplit hpos hfuel
  | clearing hk hcommitted hsplit hpos hfuel =>
    rw [← beside.start_eq_of_getElem? hk] at hpos
    rw [← hconsumer]
    exact .clearing (beside.kept_of_committed hk hcommitted) hcommitted hsplit hpos hfuel
  | passing hk hcommitted hsplit =>
    rw [← hconsumer]
    exact .passing (beside.kept_of_committed hk hcommitted) hcommitted hsplit
  | returningNone => exact .returningNone
  | returning hk hcommitted =>
    exact .returning (beside.kept_of_committed hk hcommitted) hcommitted

/-! ## The requests of the ring -/

namespace Beside

variable {passed o : Nat} {gone : Nat → Prop} {pos value : UInt64}

theorem refl (ring : Ring) (log : List Reservation) : Beside none ring log ring log where
  own_pending := by simp
  byteSize_eq := rfl
  producer_le := Nat.le_refl _
  consumer_le := Nat.le_refl _
  start_eq _ _ := rfl
  kept _ _ hk _ := hk
  untouched _ _ _ _ _ _ _ := rfl
  data_prefix := List.prefix_rfl

theorem setReady (ring : Ring) (log : List Reservation) (ready : Bool) :
    Beside none ring log { ring with ready } log :=
  { refl ring log with }

/-- Reserving leaves all reservations alone that were made before. -/
theorem reserve (hpos : ring.producerPos.toNat ≤ pos.toNat) (r : Reservation) :
    Beside none ring log { ring with producerPos := pos } (log ++ [r]) where
  own_pending := by simp
  byteSize_eq := rfl
  producer_le := hpos
  consumer_le := Nat.le_refl _
  start_eq _ hk := start_append [r] (Nat.le_of_lt hk)
  kept _ _ hk _ := by rw [List.getElem?_append_left (List.getElem?_eq_some_iff.mp hk).1]; exact hk
  untouched _ _ _ _ _ _ _ := rfl
  data_prefix := by
    rw [List.map_append]
    exact List.prefix_append _ _

/-- Storing a word of a payload leaves the other records alone. -/
theorem store_payload (layout : Layout ring log passed gone) (hk : log[k]? = some r)
    (hcommitted : r.committed = false) (ho : o < r.words)
    (hpos : pos.toNat / 8 = start log k + o) :
    Beside (some k) ring log (ring.store pos value) log where
  own_pending := by
    rintro _ ⟨rfl⟩
    exact ⟨r, hk, hcommitted⟩
  byteSize_eq := rfl
  producer_le := Nat.le_refl _
  consumer_le := Nat.le_refl _
  start_eq _ _ := rfl
  kept _ _ hj _ := hj
  untouched _ _ _ hj hpending hne ho' :=
    layout.cell_store_of_other hk (layout.le_of_pending hk hcommitted) ho hpos hj
      (layout.le_of_pending hj hpending) (fun h => hne (congrArg some h.symm)) ho'
  data_prefix := List.prefix_rfl

/-- Storing a header leaves the other records alone. -/
theorem commit (layout : Layout ring log passed gone) (hk : log[k]? = some r)
    (hcommitted : r.committed = false) (hpos : pos.toNat / 8 = start log k) :
    Beside (some k) ring log (ring.store pos value) (commitAt log k) :=
  have beside : Beside (some k) ring log (ring.store pos value) log :=
    store_payload (o := 0) layout hk hcommitted r.words_pos hpos
  { beside with
    start_eq := fun j _ => start_commitAt log k j
    kept := fun j r' hj hne => by
      rw [getElem?_commitAt_of_ne (mt (congrArg some) hne)]
      exact hj
    data_prefix := ⟨[], by rw [List.append_nil, map_data_commitAt]⟩ }

/-- Clearing a word of the record in hand leaves all records alone that are not complete. -/
theorem clear (layout : Layout ring log passed gone) (hk : log[passed]? = some r)
    (hcommitted : r.committed = true) (ho : o < r.words)
    (hpos : pos.toNat / 8 = start log passed + o) :
    Beside none ring log (ring.store pos value) log :=
  { refl ring log with
    untouched := fun _ _ _ hj hpending _ ho' =>
      layout.cell_store_of_other hk (Nat.le_refl _) ho hpos hj (layout.le_of_pending hj hpending)
        (ne_of_committed hj hk hpending hcommitted).symm ho' }

theorem pass (log : List Reservation) (hpos : ring.consumerPos.toNat ≤ pos.toNat) :
    Beside none ring log { ring with consumerPos := pos } log :=
  { refl ring log with consumer_le := hpos }

end Beside

end PortKnock.Ring
