import PortKnock.CapturePlan
import PortKnock.Config.Reader
import PortKnock.Proofs.Knock
import PortKnock.Proofs.Receiver
import PortKnock.Proofs.Ring.Fifo

/-!
# From a configuration to the lines of knocks

All parts put together: a configuration that is accepted gives a ring, the
frames are inspected one after the other with the ring as the sink, and the
receiver empties the ring when it is told to end.  As many knocks are reported
as the ring has room for, sixteen octets each, and they are the first ones.
-/

namespace PortKnock

open PortKnock.Ring

/-! ## Making the ring -/

theorem Config.validate_of_parse {text : String} {config : Config}
    (hparse : Config.parse text = .ok config) : config.validate = .ok () := by
  unfold Config.parse at hparse
  split at hparse
  · cases hparse
  · simp only at hparse
    split at hparse
    · cases hparse
    · rename_i hvalid
      cases hparse
      exact hvalid

/-- A configuration that is valid gives a ring. -/
theorem Config.exists_ring_of_validate {config : Config} (hvalid : config.validate = .ok ()) :
    ∃ ring, Ring.make config.ringByteSize = .ok ring := by
  unfold Config.validate at hvalid
  split at hvalid
  · cases hvalid
  · rename_i hsize
    exact ⟨_, if_neg hsize⟩

/-! ## Inspecting frames into the ring -/

/-- Inspects frames one after the other with a ring as the sink. -/
def inspectAll (filter : Filter) (ring : Ring) : List (List UInt8) → Ring
  | [] => ring
  | frame :: frames =>
    inspectAll filter ((inspect filter (Ring.sink ring.byteSize) frame).run ring).2 frames

section Filling

variable {size : UInt64} {ring : Ring} {knocks : List Knock}

/-- A ring of the given size holds the first knocks, as many as there is room for. -/
structure Holds (size : UInt64) (ring : Ring) (knocks : List Knock) : Prop where
  byteSize_eq : ring.byteSize = size
  exists_log : ∃ log, Settled ring log 0 ∧
    waiting log 0 = (knocks.take (size.toNat / 16)).map Knock.encode

theorem footprint_encode (knock : Knock) : footprint knock.encode.length = 16 := by
  rw [Knock.length_encode]
  rfl

theorem load_encode (knocks : List Knock) :
    Fifo.load (knocks.map Knock.encode) = 16 * knocks.length := by
  induction knocks with
  | nil => rfl
  | cons knock knocks ih =>
    calc
      Fifo.load ((knock :: knocks).map Knock.encode) =
          footprint knock.encode.length + Fifo.load (knocks.map Knock.encode) := rfl
      _ = 16 + 16 * knocks.length := by rw [footprint_encode, ih]
      _ = 16 * (knock :: knocks).length := by rw [List.length_cons, Nat.mul_succ, Nat.add_comm]

theorem admissible_encode (hring : ring.WellFormed) (knock : Knock) :
    Admissible ring.byteSize knock.encode := by
  have htwo := hring.two_le_size
  have hbyteSize := hring.byteSize_eq
  refine ⟨?_, ?_, ?_⟩
  · intro hnil
    have := knock.length_encode
    rw [hnil] at this
    cases this
  · rw [footprint_encode]
    omega
  · rw [Knock.length_encode]
    decide

/-- One more knock is kept if there is room, and lost otherwise. -/
theorem Holds.output (holds : Holds size ring knocks) (knock : Knock) (flags : UInt64) :
    Holds size ((Ring.output size knock.encode flags).run ring).2 (knocks ++ [knock]) := by
  obtain ⟨rfl, log, settled, hwaiting⟩ := holds
  have hwellFormed := settled.layout.wellFormed
  have hle63 := hwellFormed.byteSize_le
  have hdata := admissible_encode hwellFormed knock
  have hfootprint := footprint_encode knock
  have hframed : framed log = used log 0 := rfl
  have hused : used log 0 = 16 * min (ring.byteSize.toNat / 16) knocks.length := by
    rw [← load_waiting, hwaiting, load_encode, List.length_take]
  by_cases hroom : knocks.length < ring.byteSize.toNat / 16
  · obtain ⟨ring', hrun, settled', hbyteSize', _⟩ :=
      run_output_ok settled hdata flags (by omega) (by omega)
    rw [hrun]
    refine ⟨hbyteSize', _, settled', ?_⟩
    rw [waiting_concat _ (Nat.zero_le _), hwaiting, List.take_of_length_le (Nat.le_of_lt hroom),
      List.take_of_length_le (by simp; omega), List.map_append]
    rfl
  · -- the ring is full, and stays so until somebody reads
    rw [run_output_full settled hdata flags (by omega)]
    refine ⟨rfl, log, settled, ?_⟩
    rw [hwaiting, List.take_append_of_le_length (Nat.le_of_not_lt hroom)]

theorem Holds.inspect (holds : Holds size ring knocks) (filter : Filter) (frame : List UInt8) :
    Holds size ((PortKnock.inspect filter (Ring.sink size) frame).run ring).2
      (knocks ++ (classify filter frame).toList) := by
  unfold PortKnock.inspect
  cases classify filter frame with
  | none =>
    rw [Option.toList_none, List.append_nil]
    exact holds
  | some knock =>
    simp only [Access.run_bind, Access.run_pure, Ring.sink, Option.toList_some]
    exact holds.output knock forceWakeup

theorem Holds.inspectAll (holds : Holds size ring knocks) (filter : Filter)
    (frames : List (List UInt8)) :
    Holds size (PortKnock.inspectAll filter ring frames)
      (knocks ++ frames.filterMap (classify filter)) := by
  induction frames generalizing ring knocks with
  | nil =>
    rw [List.filterMap_nil, List.append_nil]
    exact holds
  | cons frame frames ih =>
    have hsplit : (frame :: frames).filterMap (classify filter) =
        (classify filter frame).toList ++ frames.filterMap (classify filter) := by
      cases hclassify : classify filter frame <;> simp [hclassify]
    rw [hsplit, ← List.append_assoc, PortKnock.inspectAll, holds.byteSize_eq]
    exact ih (holds.inspect filter frame)

theorem holds_of_make (hmake : Ring.make size = .ok ring) : Holds size ring [] := by
  have settled := settled_of_make hmake
  obtain ⟨_, _, rfl⟩ := make_eq_ok hmake
  exact ⟨rfl, [], settled, by simp [waiting]⟩

end Filling

/-! ## Receiving from the ring -/

/-- What the receiver is woken by before it is told to end. -/
inductive Prompt
  /-- The ring has asked for a wakeup. -/
  | readable
  /-- The clock ticks. -/
  | tick
  deriving DecidableEq, Repr

/-- The receiver on a ring that nobody writes to any more: wakeups in the given order, and then the
end. -/
def receive (receiver : Receiver) (ring : Ring) : List Prompt → Receiver
  | [] => receiver.finish ring.drain.1
  | .readable :: prompts => receive (receiver.wake (.records ring.drain.1)) ring.drain.2 prompts
  | .tick :: prompts => receive (receiver.wake .tick) ring prompts

/-- Whatever wakes the receiver first, it takes in what waits in the ring, and leaves nothing in
its buffer. -/
theorem takes_receive {ring : Ring} {log : List Reservation} {passed : Nat}
    (settled : Settled ring log passed) (receiver : Receiver) (prompts : List Prompt) :
    receiver.Takes (waiting log passed) (receive receiver ring prompts) ∧
      (receive receiver ring prompts).pending = "" := by
  induction prompts generalizing receiver ring passed with
  | nil =>
    obtain ⟨_, hdrain, _⟩ := drain_of_settled settled
    rw [receive, hdrain]
    exact ⟨Receiver.takes_finish _ _, Receiver.pending_finish _ _⟩
  | cons prompt prompts ih =>
    cases prompt with
    | readable =>
      obtain ⟨ring', hdrain, settled'⟩ := drain_of_settled settled
      have hnothing : waiting log log.length = [] := by simp [waiting]
      rw [receive, hdrain]
      obtain ⟨htakes, hpending⟩ := ih settled' (receiver.wake (.records (waiting log passed)))
      have hfirst := Receiver.takes_wake receiver (.records (waiting log passed))
      have hboth := hfirst.trans htakes
      rw [hnothing, List.append_nil] at hboth
      exact ⟨hboth, hpending⟩
    | tick =>
      obtain ⟨htakes, hpending⟩ := ih settled (receiver.wake .tick)
      exact ⟨(Receiver.takes_wake receiver .tick).trans htakes, hpending⟩

/-! ## The whole way -/

theorem knocks_encode (knocks : List Knock) :
    Receiver.knocks (knocks.map Knock.encode) = knocks := by
  rw [Receiver.knocks, List.filterMap_map]
  have hdecode : Knock.decode? ∘ Knock.encode = some := funext Knock.decode?_encode
  rw [hdecode, List.filterMap_some]

theorem strays_encode (knocks : List Knock) :
    Receiver.strays (knocks.map Knock.encode) = 0 := by
  rw [Receiver.strays, List.countP_eq_zero]
  intro record hrecord
  obtain ⟨knock, _, rfl⟩ := List.mem_map.mp hrecord
  simp [Knock.decode?_encode]

/-- The knocks in frames are those of the frames that are knocks. -/
theorem filterMap_classify (filter : Filter) (frames : List (List UInt8)) :
    frames.filterMap (classify filter) = (frames.filter (isKnock filter)).map knockOf := by
  induction frames with
  | nil => rfl
  | cons frame frames ih =>
    have hclassify := classify_eq filter frame
    cases hknock : isKnock filter frame with
    | false =>
      rw [hknock] at hclassify
      rw [List.filterMap_cons_none hclassify, List.filter_cons_of_neg (by simp [hknock]), ih]
    | true =>
      rw [hknock] at hclassify
      rw [List.filterMap_cons_some hclassify, List.filter_cons_of_pos hknock, ih, List.map_cons]

/-- A configuration that is accepted gives a ring, and of the frames that are inspected into it the
first knocks are reported, as many as the ring has room for: each by its line, and none is lost on
the way to the output. -/
theorem reported_of_parse {text : String} {config : Config}
    (hparse : Config.parse text = .ok config) (options : ServeOptions)
    (frames : List (List UInt8)) (prompts : List Prompt) :
    let plan := config.plan options
    let knocks := frames.filter (isKnock ⟨config.strictEtherType⟩)
    ∃ ring, Ring.make plan.ringByteSize = .ok ring ∧
      let receiver := receive {} (inspectAll plan.filter ring frames) prompts
      receiver.read.toNat = min knocks.length (config.ringByteSize.toNat / 16) ∧
        receiver.lost = 0 ∧
        (Delivery.run (fun _ => none) receiver.batches.toList).text =
          String.join ((knocks.take receiver.read.toNat).map Knock.frameLine) := by
  intro plan knocks
  obtain ⟨ring, hmake⟩ := Config.exists_ring_of_validate (Config.validate_of_parse hparse)
  refine ⟨ring, hmake, ?_⟩
  intro receiver
  have holds := (holds_of_make hmake).inspectAll plan.filter frames
  obtain ⟨_, log, settled, hwaiting⟩ := holds
  obtain ⟨htakes, hpending⟩ := takes_receive settled {} prompts
  let reported := knocks.take (config.ringByteSize.toNat / 16)
  have hknocks : waiting log 0 = (reported.map knockOf).map Knock.encode := by
    rw [hwaiting, List.nil_append, filterMap_classify, ← List.map_take]
    rfl
  have hread : receiver.read.toNat = min knocks.length (config.ringByteSize.toNat / 16) := by
    -- no ring has room for so many records that the counter would come to its end
    have hbound := config.ringByteSize.toNat_lt
    rw [htakes.read, hknocks, knocks_encode, List.length_map, List.length_take, Nat.min_comm]
    show (0 + UInt64.ofNat _).toNat = _
    rw [UInt64.zero_add, UInt64.toNat_ofNat', Nat.mod_eq_of_lt (by omega)]
  have htake : knocks.take receiver.read.toNat = reported := by
    rw [hread, Nat.min_comm, ← List.take_eq_take_min]
  have hlines : (reported.map knockOf).map Knock.line = reported.map Knock.frameLine := by
    rw [List.map_map]
    refine List.map_congr_left fun frame hframe => ?_
    have hknock := (List.mem_filter.mp (List.mem_of_mem_take hframe)).2
    exact Knock.line_knockOf (length_le_of_isKnock hknock)
  refine ⟨hread, ?_, ?_⟩
  · rw [htakes.lost, hknocks, strays_encode]
    rfl
  · calc
      (Delivery.run (fun _ => none) receiver.batches.toList).text =
          String.join receiver.batches.toList := Delivery.text_run_of_accepting _
      _ = receiver.text := by rw [Receiver.text, hpending, String.append_empty]
      _ = String.join ((Receiver.knocks (waiting log 0)).map Knock.line) := by
        rw [htakes.text]
        exact String.empty_append
      _ = String.join ((knocks.take receiver.read.toNat).map Knock.frameLine) := by
        rw [hknocks, knocks_encode, hlines, htake]

/-- A frame with other octets where the EtherType is, and two knocks of which only the first one
has room in the smallest ring. -/
theorem reported_of_smallest_ring :
    let knock (host : UInt8) := List.replicate 12 0 ++ [8, 0] ++ List.replicate 9 0 ++
      [17, 0, 0, 10, 0, 0, host] ++ List.replicate 6 0 ++ [0xf2, 0xf9, 0, 0, 0, 0]
    let frames := [List.replicate 23 0 ++ [17] ++ List.replicate 18 0, knock 1, knock 2]
    ∃ config ring,
      Config.parse "\x7b\"RingByteSize\": 16, \"StrictEtherType\": true\x7d" = .ok config ∧
      Ring.make (config.plan {}).ringByteSize = .ok ring ∧
      let receiver := receive {} (inspectAll (config.plan {}).filter ring frames) [.tick]
      receiver.read.toNat = 1 ∧ receiver.lost = 0 ∧
        (Delivery.run (fun _ => none) receiver.batches.toList).text = "10.0.0.1,62201\n" := by
  intro knock frames
  have hseen : (Config.parse "\x7b\"RingByteSize\": 16, \"StrictEtherType\": true\x7d").toOption =
      some { ringByteSize := 16, strictEtherType := true } := by
    decide +kernel
  obtain ⟨config, hparse, hconfig⟩ : ∃ config,
      Config.parse "\x7b\"RingByteSize\": 16, \"StrictEtherType\": true\x7d" = .ok config ∧
        config = { ringByteSize := 16, strictEtherType := true } := by
    cases hresult : Config.parse "\x7b\"RingByteSize\": 16, \"StrictEtherType\": true\x7d" with
    | error problem =>
      rw [hresult] at hseen
      cases hseen
    | ok config =>
      rw [hresult] at hseen
      exact ⟨config, rfl, Option.some.inj hseen⟩
  obtain ⟨ring, hmake, hread, hlost, htext⟩ := reported_of_parse hparse {} frames [.tick]
  have hone : min (frames.filter (isKnock ⟨config.strictEtherType⟩)).length
      (config.ringByteSize.toNat / 16) = 1 := by
    rw [hconfig]
    decide +kernel
  refine ⟨config, ring, hparse, hmake, hread.trans hone, hlost, ?_⟩
  rw [htext, hread.trans hone, hconfig]
  decide +kernel

end PortKnock
