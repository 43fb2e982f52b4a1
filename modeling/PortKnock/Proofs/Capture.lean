import Mathlib.Algebra.Group.Nat.Defs
import PortKnock.Capture
import PortKnock.Proofs.Inspection

/-!
# Capturing looks at one frame at a time

The loop keeps one buffer for all frames, cuts long ones and goes on after
whatever the sink answers.  None of this shows: what it does is to publish the
knocks of the incoming frames as they came, one after the other
(`loop_publishes`).  A frame is as long in the buffer as it came or too long for
a knock either way, and octets behind its length are not looked at.
-/

namespace PortKnock.Capture

/-! ## One frame -/

/-- What an earlier frame has left in the buffer is not part of a frame. -/
theorem take_receiveInto (buffer frame : List UInt8) :
    (receiveInto buffer frame).1.take (receiveInto buffer frame).2 = frame.take bufferSize :=
  List.take_left

/-- A frame that is cut was too long for a knock, and still is. -/
theorem classify_take (filter : Filter) (frame : List UInt8) :
    classify filter (frame.take bufferSize) = classify filter frame := by
  by_cases hfits : frame.length ≤ bufferSize
  · rw [List.take_of_length_le hfits]
  · have hcut : (frame.take bufferSize).length = bufferSize :=
      List.length_take_of_le (Nat.le_of_not_le hfits)
    have hlong : 60 < frame.length := Nat.lt_trans (by decide) (Nat.lt_of_not_le hfits)
    rw [classify, classify, headers?_of_long filter hlong, headers?_of_long filter]
    rw [hcut]
    decide

/-! ## What is heard -/

/-- The frame of a reception, unless this host has sent it itself. -/
def Reception.incoming? : Reception → Option (List UInt8)
  | .frame octets false => some octets
  | _ => none

/-- Why a reception ends capturing, if it does: no error does that is only EAGAIN (11) or
EINTR (4). -/
def Reception.cause? : Reception → Option OsError
  | .failed cause => if cause.code = 11 ∨ cause.code = 4 then none else some cause
  | .frame _ _ => none

theorem isPassing_iff (cause : OsError) :
    isPassing cause = true ↔ cause.code = 11 ∨ cause.code = 4 := by
  rw [isPassing, Bool.or_eq_true, beq_iff_eq, beq_iff_eq]
  rfl

/-- The incoming frames up to the first failure that ends capturing. -/
def heard (receptions : List Reception) : List (List UInt8) :=
  (receptions.takeWhile fun reception => reception.cause?.isNone).filterMap Reception.incoming?

/-- What is published of frames: their knocks, each with a wakeup. -/
def eventsOf (filter : Filter) (frames : List (List UInt8)) : List (Knock × UInt64) :=
  (frames.filterMap (classify filter)).map fun knock => (knock, forceWakeup)

theorem heard_cons_of_cause?_eq_none {reception : Reception} (hcause : reception.cause? = none)
    (rest : List Reception) :
    heard (reception :: rest) = reception.incoming?.toList ++ heard rest := by
  rw [heard, List.takeWhile_cons_of_pos (by rw [hcause]; rfl), List.filterMap_cons]
  cases reception.incoming? <;> rfl

theorem heard_cons_of_cause?_eq_some {reception : Reception} {cause : OsError}
    (hcause : reception.cause? = some cause) (rest : List Reception) :
    heard (reception :: rest) = [] := by
  rw [heard, List.takeWhile_cons_of_neg (by rw [hcause]; exact Bool.false_ne_true),
    List.filterMap_nil]

theorem findSome?_cause?_cons {reception : Reception} (hcause : reception.cause? = none)
    (rest : List Reception) :
    (reception :: rest).findSome? Reception.cause? = rest.findSome? Reception.cause? := by
  rw [List.findSome?_cons, hcause]

theorem eventsOf_cons (filter : Filter) (frame : List UInt8) (frames : List (List UInt8)) :
    eventsOf filter (frame :: frames) = eventsOf filter [frame] ++ eventsOf filter frames := by
  rw [eventsOf, eventsOf, eventsOf, ← List.map_append, ← List.filterMap_append, List.cons_append,
    List.nil_append]

/-! ## What is done -/

variable {m : Type → Type} [Monad m]

/-- Publishes one after the other, whatever the sink answers. -/
def publishAll (sink : Sink m) (events : List (Knock × UInt64)) : m PUnit :=
  forM events fun event => do
    let _ ← sink.publish event.1 event.2
    return ⟨⟩

variable [LawfulMonad m]

theorem publishAll_nil_bind {α : Type} (sink : Sink m) (next : m α) :
    (publishAll sink [] >>= fun _ => next) = next := by
  rw [publishAll, List.forM_nil, pure_bind]

theorem publishAll_append (sink : Sink m) (events events' : List (Knock × UInt64)) :
    publishAll sink (events ++ events') =
      publishAll sink events >>= fun _ => publishAll sink events' :=
  List.forM_append

/-- To inspect a frame is to publish its knock. -/
theorem inspect_bind {α : Type} (filter : Filter) (sink : Sink m) (frame : List UInt8)
    (next : m α) :
    (inspect filter sink frame >>= fun _ => next) =
      publishAll sink (eventsOf filter [frame]) >>= fun _ => next := by
  unfold inspect
  cases hclassify : classify filter frame with
  | none => simp [publishAll, eventsOf, hclassify]
  | some knock => simp [publishAll, eventsOf, hclassify]

/-- The loop publishes the knocks of what is heard and does nothing else, counts what is heard, and
ends with the first failure if there is one. -/
theorem loop_publishes (filter : Filter) (sink : Sink m) (state : State)
    (receptions : List Reception) :
    ∃ buffer, loop filter sink state receptions =
      publishAll sink (eventsOf filter (heard receptions)) >>= fun _ =>
        pure ((receptions.findSome? Reception.cause?).map ReceiveError.mk,
          { buffer, framesSeen :=
              state.framesSeen + UInt64.ofNat (heard receptions).length }) := by
  induction receptions generalizing state with
  | nil =>
    have hcount : state.framesSeen + UInt64.ofNat (heard []).length = state.framesSeen :=
      UInt64.add_zero _
    refine ⟨state.buffer, ?_⟩
    rw [hcount]
    exact (publishAll_nil_bind sink _).symm
  | cons reception rest ih =>
    cases reception with
    | failed cause =>
      by_cases hpassing : cause.code = 11 ∨ cause.code = 4
      · -- nothing has come, and the loop goes on
        have hcause : (Reception.failed cause).cause? = none := if_pos hpassing
        rw [heard_cons_of_cause?_eq_none hcause, findSome?_cause?_cons hcause, loop,
          if_pos ((isPassing_iff cause).mpr hpassing)]
        exact ih state
      · -- the loop ends here
        have hcause : (Reception.failed cause).cause? = some cause := if_neg hpassing
        have hcount : state.framesSeen + UInt64.ofNat ([] : List (List UInt8)).length =
            state.framesSeen := UInt64.add_zero _
        refine ⟨state.buffer, ?_⟩
        rw [heard_cons_of_cause?_eq_some hcause, List.findSome?_cons, hcause, loop,
          if_neg (mt (isPassing_iff cause).mp hpassing), hcount]
        exact (publishAll_nil_bind sink _).symm
    | frame octets outgoing =>
      rw [heard_cons_of_cause?_eq_none rfl, findSome?_cause?_cons rfl]
      cases outgoing with
      | true => exact ih _
      | false =>
        -- the frame is inspected as it stands in the buffer, and the rest follows
        obtain ⟨buffer, hloop⟩ := ih {
          buffer := (receiveInto state.buffer octets).1, framesSeen := state.framesSeen + 1 }
        refine ⟨buffer, ?_⟩
        have hevents : eventsOf filter [octets.take bufferSize] = eventsOf filter [octets] := by
          simp only [eventsOf, List.filterMap_cons, classify_take]
        have hcount : state.framesSeen + UInt64.ofNat (octets :: heard rest).length =
            state.framesSeen + 1 + UInt64.ofNat (heard rest).length := by
          rw [List.length_cons, Nat.add_comm (heard rest).length, UInt64.ofNat_add,
            UInt64.add_assoc]
          rfl
        calc
          loop filter sink state (.frame octets false :: rest) =
              inspect filter sink (octets.take bufferSize) >>= fun _ =>
                loop filter sink {
                  buffer := (receiveInto state.buffer octets).1
                  framesSeen := state.framesSeen + 1 } rest := by
            rw [← take_receiveInto state.buffer]
            rfl
          _ = publishAll sink (eventsOf filter [octets]) >>= fun _ =>
              publishAll sink (eventsOf filter (heard rest)) >>= fun _ =>
                pure ((rest.findSome? Reception.cause?).map ReceiveError.mk,
                  { buffer, framesSeen :=
                    state.framesSeen + 1 + UInt64.ofNat (heard rest).length }) := by
            rw [inspect_bind, hevents, hloop]
          _ = _ := by
            rw [Reception.incoming?, Option.toList_some, List.cons_append, List.nil_append, hcount,
              eventsOf_cons filter octets (heard rest), publishAll_append, bind_assoc]

/-! ## Keeping a record -/

/-- A sink that keeps what it is asked to publish; how it answers depends on that in any way. -/
def recorder (answer : List (Knock × UInt64) → Except Refusal Unit) :
    Sink (StateM (List (Knock × UInt64))) where
  publish knock flags := modifyGet fun events =>
    (answer (events ++ [(knock, flags)]), events ++ [(knock, flags)])

theorem run_publishAll_recorder (answer : List (Knock × UInt64) → Except Refusal Unit)
    (events events' : List (Knock × UInt64)) :
    (publishAll (recorder answer) events').run events = pure (⟨⟩, events ++ events') := by
  induction events' generalizing events with
  | nil =>
    rw [List.append_nil]
    rfl
  | cons event events' ih =>
    have hrest := ih (events ++ [event])
    rw [List.append_assoc] at hrest
    exact hrest

/-- Whatever the sink answers: what is published are the knocks in the incoming frames as they
came, up to the first failure that ends capturing, each with a wakeup; all of these frames are
counted, in 64 bits; and the loop fails with that failure, if there is one. -/
theorem published_as_received (filter : Filter) (sink : Sink m) (state : State)
    (receptions : List Reception) :
    (∃ failed buffer framesSeen,
      (loop filter sink state receptions =
        publishAll sink (eventsOf filter (heard receptions)) >>= fun _ =>
          pure (failed, { buffer, framesSeen })) ∧
      (framesSeen = state.framesSeen + UInt64.ofNat (heard receptions).length ∧
        (state.framesSeen.toNat + (heard receptions).length < 2 ^ 64 →
          framesSeen.toNat = state.framesSeen.toNat + (heard receptions).length)) ∧
      failed.map ReceiveError.failure =
        (receptions.findSome? Reception.cause?).map (fun cause =>
          ⟨.capturing, "Error receiving frame " ++ cause.symbol⟩) ∧
      (failed.isSome = true ↔
        ∃ cause, .failed cause ∈ receptions ∧ ¬ (cause.code = 11 ∨ cause.code = 4))) ∧
    ∀ answer, ((loop filter (recorder answer) state receptions).run []).2 =
      eventsOf filter (heard receptions) := by
  constructor
  · obtain ⟨buffer, hloop⟩ := loop_publishes filter sink state receptions
    refine ⟨_, buffer, _, hloop, ⟨rfl, fun hbound => ?_⟩, ?_, ?_⟩
    · rw [UInt64.toNat_add, UInt64.toNat_ofNat', Nat.add_mod_mod, Nat.mod_eq_of_lt hbound]
    · rw [Option.map_map]
      rfl
    · -- failures that pass have no cause, and every other one has
      rw [Option.isSome_map, List.findSome?_isSome_iff]
      constructor
      · rintro ⟨reception, hmem, hcause⟩
        cases reception with
        | frame octets outgoing => cases hcause
        | failed cause =>
          refine ⟨cause, hmem, fun hpassing => ?_⟩
          rw [Reception.cause?, if_pos hpassing] at hcause
          cases hcause
      · rintro ⟨cause, hmem, hpassing⟩
        refine ⟨_, hmem, ?_⟩
        rw [Reception.cause?, if_neg hpassing, Option.isSome_some]
  · intro answer
    obtain ⟨buffer, hloop⟩ := loop_publishes filter (recorder answer) state receptions
    rw [hloop, StateT.run_bind, run_publishAll_recorder]
    rfl

/-- A sink that refuses everything, and among other frames one that this host has sent, one that is
cut and one that is shorter than what the buffer still holds. -/
theorem published_as_received_by_refusing_sink :
    let knock (host : UInt8) := List.replicate 12 0 ++ [8, 0] ++ List.replicate 9 0 ++
      [17, 0, 0, 10, 0, 0, host] ++ List.replicate 6 0 ++ [0xf2, 0xf9, 0, 0, 0, 0]
    let receptions : List Reception := [.frame (knock 1) false, .failed .tryAgain,
      .frame (knock 2) true, .frame (List.replicate 3000 17) false, .failed .interrupted,
      .frame (List.replicate 40 17) false, .frame (knock 3) false, .failed .notASocket,
      .frame (knock 4) false]
    ∃ failed buffer,
      (loop {} (recorder fun _ => .error .full) {} receptions).run [] =
        pure ((failed, { buffer, framesSeen := 4 }),
          [(⟨0x0a000001, 62201, 0⟩, 2), (⟨0x0a000003, 62201, 0⟩, 2)]) ∧
      failed.map ReceiveError.failure = some ⟨.capturing, "Error receiving frame ENOTSOCK"⟩ := by
  intro knock receptions
  obtain ⟨⟨failed, buffer, framesSeen, hloop, ⟨hframesSeen, -⟩, hfailed, -⟩, -⟩ :=
    published_as_received {} (recorder fun _ => .error .full) {} receptions
  have hcount : (heard receptions).length = 4 := by decide +kernel
  have hevents : eventsOf {} (heard receptions) =
      [(⟨0x0a000001, 62201, 0⟩, 2), (⟨0x0a000003, 62201, 0⟩, 2)] := by
    decide +kernel
  refine ⟨failed, buffer, ?_, hfailed⟩
  rw [hloop, StateT.run_bind, run_publishAll_recorder, hevents, hframesSeen, hcount]
  rfl

end PortKnock.Capture
