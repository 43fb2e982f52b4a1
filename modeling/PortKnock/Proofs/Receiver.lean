import PortKnock.Proofs.Knock
import PortKnock.Receiver

/-!
# What the receiver keeps account of

However the records reach the receiver, in whichever portions and with how many
ticks in between, it counts the ones that are knocks and the ones that are not,
and the lines of the knocks are written in the order of the records.  `Takes`
states this of one stretch of the receiver's life; stretches follow each other
(`Takes.trans`), so it is enough to look at what happens once.

The writer is described the same way (`Wrote`), whatever the output answers: each
batch costs it one write and one flush, and a write that fails costs the batch.
-/

namespace PortKnock

namespace Receiver

/-- All lines so far, handed over or not. -/
def text (receiver : Receiver) : String :=
  String.join receiver.batches.toList ++ receiver.pending

/-- The knocks among records. -/
def knocks (records : List (List UInt8)) : List Knock :=
  records.filterMap Knock.decode?

/-- Records that are no knocks. -/
def strays (records : List (List UInt8)) : Nat :=
  records.countP fun record => (Knock.decode? record).isNone

/-- From one state to the other, the receiver has taken the given records in and nothing else. -/
structure Takes (receiver : Receiver) (records : List (List UInt8)) (receiver' : Receiver) :
    Prop where
  read : receiver'.read = receiver.read + UInt64.ofNat (knocks records).length
  lost : receiver'.lost = receiver.lost + UInt64.ofNat (strays records)
  text : receiver'.text = receiver.text ++ String.join ((knocks records).map Knock.line)

variable {receiver receiver' receiver'' : Receiver} {records records' : List (List UInt8)}

theorem knocks_append (records records' : List (List UInt8)) :
    knocks (records ++ records') = knocks records ++ knocks records' :=
  List.filterMap_append

/-- Nothing that is counted has been taken in. -/
theorem Takes.of_text_eq (hread : receiver'.read = receiver.read)
    (hlost : receiver'.lost = receiver.lost) (htext : receiver'.text = receiver.text) :
    Takes receiver [] receiver' where
  read := hread.trans (UInt64.add_zero _).symm
  lost := hlost.trans (UInt64.add_zero _).symm
  text := by
    rw [htext]
    exact String.append_empty.symm

theorem Takes.refl (receiver : Receiver) : Takes receiver [] receiver :=
  .of_text_eq rfl rfl rfl

theorem Takes.trans (htakes : Takes receiver records receiver')
    (htakes' : Takes receiver' records' receiver'') :
    Takes receiver (records ++ records') receiver'' where
  read := by
    rw [htakes'.read, htakes.read, knocks_append, List.length_append, UInt64.ofNat_add,
      UInt64.add_assoc]
  lost := by
    rw [htakes'.lost, htakes.lost, strays, strays, strays, List.countP_append, UInt64.ofNat_add,
      UInt64.add_assoc]
  text := by
    rw [htakes'.text, htakes.text, knocks_append, List.map_append, String.join_append,
      String.append_assoc]

/-- Handing the buffer over makes no difference to the text. -/
theorem takes_flush (receiver : Receiver) : Takes receiver [] receiver.flush := by
  unfold flush
  split
  · exact .refl receiver
  · refine .of_text_eq rfl rfl ?_
    simp only [text, Array.toList_push, String.join_append, String.join_cons, String.join_nil,
      String.append_empty]

theorem pending_flush (receiver : Receiver) : receiver.flush.pending = "" := by
  unfold flush
  split
  · rename_i hempty
    exact String.isEmpty_iff.mp hempty
  · rfl

theorem takes_flushFull (receiver : Receiver) : Takes receiver [] receiver.flushFull := by
  unfold flushFull
  split
  · exact takes_flush receiver
  · exact .refl receiver

theorem takes_take (receiver : Receiver) (record : List UInt8) :
    Takes receiver [record] (receiver.take record) := by
  unfold take
  cases hdecode : Knock.decode? record with
  | none =>
    refine ⟨?_, ?_, ?_⟩ <;> simp [knocks, strays, hdecode, text]
  | some knock =>
    -- the line goes behind what is pending, and the buffer may be handed over then
    refine (Takes.trans ?_ (takes_flushFull _) : Takes receiver ([record] ++ []) _)
    refine ⟨?_, ?_, ?_⟩ <;>
      simp [knocks, strays, hdecode, text, report, String.append_assoc]

theorem takes_drain (receiver : Receiver) (records : List (List UInt8)) :
    Takes receiver records (receiver.drain records) := by
  induction records generalizing receiver with
  | nil => exact .refl receiver
  | cons record records ih => exact (takes_take receiver record).trans (ih _)

/-- Records that come with a wakeup. -/
def Wakeup.content : Wakeup → List (List UInt8)
  | .records records => records
  | .tick => []

theorem takes_wake (receiver : Receiver) (wakeup : Wakeup) :
    Takes receiver wakeup.content (receiver.wake wakeup) := by
  cases wakeup with
  | records records => exact takes_drain receiver records
  | tick => exact takes_flush receiver

theorem takes_wakeups (receiver : Receiver) (wakeups : List Wakeup) :
    Takes receiver (wakeups.flatMap Wakeup.content) (wakeups.foldl wake receiver) := by
  induction wakeups generalizing receiver with
  | nil => exact .refl receiver
  | cons wakeup wakeups ih => exact (takes_wake receiver wakeup).trans (ih _)

theorem takes_finish (receiver : Receiver) (records : List (List UInt8)) :
    Takes receiver records (receiver.finish records) := by
  have htakes := (takes_drain receiver records).trans (takes_flush _)
  rw [List.append_nil] at htakes
  exact ⟨htakes.read, htakes.lost, htakes.text⟩

theorem pending_finish (receiver : Receiver) (records : List (List UInt8)) :
    (receiver.finish records).pending = "" :=
  pending_flush _

/-- A whole life takes in all records, and leaves nothing in the buffer. -/
theorem takes_run (wakeups : List Wakeup) (remaining : List (List UInt8)) :
    Takes {} (wakeups.flatMap Wakeup.content ++ remaining) (run wakeups remaining) :=
  (takes_wakeups {} wakeups).trans (takes_finish _ remaining)

end Receiver

/-! ## Writing -/

namespace Delivery

/-- The log line of a write that fails. -/
def complaint (cause : String) : Log.Line :=
  ⟨.error, .receiver, "Error writing knocks: " ++ cause⟩

/-- Batches of which the first one is written at the given place, without those at which the write
fails. -/
def spared (failure : Nat → Option String) (first : Nat) (batches : List String) : List String :=
  ((batches.zipIdx first).filter fun batch => (failure batch.2).isNone).map Prod.fst

/-- What the writer has done between two moments, in which it had the given batches. -/
structure Wrote (failure : Nat → Option String) (delivery : Delivery) (batches : List String)
    (delivery' : Delivery) : Prop where
  writes : delivery'.writes = delivery.writes + batches.length
  flushes : delivery'.flushes = delivery.flushes + batches.length
  written : delivery'.written.toList =
    delivery.written.toList ++ spared failure delivery.writes batches
  log : delivery'.log.toList = delivery.log.toList ++
    (List.range' delivery.writes batches.length).filterMap fun place =>
      (failure place).map complaint

variable {failure : Nat → Option String}

theorem writes_write (delivery : Delivery) (batch : String) :
    (write failure delivery batch).writes = delivery.writes + 1 := by
  unfold write
  split <;> rfl

theorem flushes_write (delivery : Delivery) (batch : String) :
    (write failure delivery batch).flushes = delivery.flushes + 1 := by
  unfold write
  split <;> rfl

theorem written_write (delivery : Delivery) (batch : String) :
    (write failure delivery batch).written.toList =
      delivery.written.toList ++ spared failure delivery.writes [batch] := by
  unfold write
  cases hfailure : failure delivery.writes <;> simp [spared, hfailure]

theorem log_write (delivery : Delivery) (batch : String) :
    (write failure delivery batch).log.toList =
      delivery.log.toList ++ ((failure delivery.writes).map complaint).toList := by
  unfold write
  cases hfailure : failure delivery.writes <;> simp [complaint]

theorem spared_cons (first : Nat) (batch : String) (batches : List String) :
    spared failure first (batch :: batches) =
      spared failure first [batch] ++ spared failure (first + 1) batches := by
  rw [spared, spared, spared, ← List.map_append, ← List.filter_append]
  rfl

theorem Wrote.cons {delivery delivery' : Delivery} {batch : String} {batches : List String}
    (wrote : Wrote failure (write failure delivery batch) batches delivery') :
    Wrote failure delivery (batch :: batches) delivery' where
  writes := by
    rw [wrote.writes, writes_write, List.length_cons, Nat.add_assoc, Nat.add_comm 1]
  flushes := by
    rw [wrote.flushes, flushes_write, List.length_cons, Nat.add_assoc, Nat.add_comm 1]
  written := by
    rw [wrote.written, written_write, writes_write, spared_cons delivery.writes batch batches,
      List.append_assoc]
  log := by
    rw [wrote.log, log_write, writes_write, List.length_cons, List.range'_succ,
      List.filterMap_cons, List.append_assoc]
    cases failure delivery.writes <;> rfl

theorem wrote_foldl (failure : Nat → Option String) (delivery : Delivery) (batches : List String) :
    Wrote failure delivery batches (batches.foldl (write failure) delivery) := by
  induction batches generalizing delivery with
  | nil => exact ⟨rfl, rfl, (List.append_nil _).symm, (List.append_nil _).symm⟩
  | cons batch batches ih => exact (ih _).cons

theorem text_eq_join (delivery : Delivery) :
    delivery.text = String.join delivery.written.toList := by
  rw [text, ← Array.foldl_toList, String.join_eq_foldl]

/-- An output that accepts every write spares all batches. -/
theorem spared_of_accepting (first : Nat) (batches : List String) :
    spared (fun _ => none) first batches = batches := by
  have hall : (batches.zipIdx first).filter (fun _ => true) = batches.zipIdx first :=
    List.filter_eq_self.mpr fun _ _ => rfl
  exact (congrArg _ hall).trans (List.zipIdx_map_fst _ _)

/-- An output that accepts every write gets all batches. -/
theorem text_run_of_accepting (batches : List String) :
    (run (fun _ => none) batches).text = String.join batches := by
  rw [text_eq_join, run, (wrote_foldl _ _ _).written, spared_of_accepting]
  rfl

end Delivery

/-! ## A whole life -/

namespace Receiver

/-- Records of knocks by their length. -/
theorem isSome_decode?_eq (record : List UInt8) :
    (Knock.decode? record).isSome = decide (record.length = 8) := by
  rw [Bool.eq_iff_iff, Knock.decode?_isSome_iff, decide_eq_true_eq]
  rfl

theorem length_knocks (records : List (List UInt8)) :
    (knocks records).length = records.countP fun record => record.length = 8 := by
  rw [knocks, List.length_filterMap_eq_countP]
  exact List.countP_congr fun record _ => by rw [isSome_decode?_eq]

theorem strays_eq (records : List (List UInt8)) :
    strays records = records.countP fun record => record.length ≠ 8 := by
  rw [strays]
  refine List.countP_congr fun record _ => ?_
  rw [← Option.not_isSome, isSome_decode?_eq]
  simp

/-- The lines of the knocks among records. -/
theorem map_line_knocks (records : List (List UInt8)) :
    (knocks records).map Knock.line =
      (records.filter fun record => record.length = 8).map Knock.recordLine := by
  induction records with
  | nil => rfl
  | cons record records ih =>
    have hsome := isSome_decode?_eq record
    cases hdecode : Knock.decode? record with
    | none =>
      rw [hdecode, Option.isSome_none] at hsome
      rw [knocks, List.filterMap_cons_none hdecode, List.filter_cons_of_neg (by simp [← hsome])]
      exact ih
    | some knock =>
      rw [hdecode, Option.isSome_some] at hsome
      rw [knocks, List.filterMap_cons_some hdecode, List.filter_cons_of_pos (by simp [← hsome]),
        List.map_cons, List.map_cons, Knock.line_of_decode? hdecode]
      exact congrArg _ ih

/-- Each record is of one of the two kinds. -/
theorem countP_add_countP (records : List (List UInt8)) :
    records.countP (fun record => record.length = 8) +
      records.countP (fun record => record.length ≠ 8) = records.length := by
  rw [List.length_eq_countP_add_countP fun record => decide (record.length = 8)]
  simp

/-- However the records come in, and however often the clock ticks in between: each of them is
counted once, by its length, and an output that accepts every write gets the lines of those that
count as knocks, in the order of the records.  The counters go up to `2 ^ 64` and start over
there. -/
theorem accounts_of_run (wakeups : List Wakeup) (remaining : List (List UInt8)) :
    let records := wakeups.flatMap Wakeup.content ++ remaining
    let receiver := run wakeups remaining
    (receiver.read = UInt64.ofNat (records.countP fun record => record.length = 8) ∧
      receiver.lost = UInt64.ofNat (records.countP fun record => record.length ≠ 8)) ∧
    (records.length < 2 ^ 64 →
      receiver.read.toNat = records.countP (fun record => record.length = 8) ∧
        receiver.lost.toNat = records.countP (fun record => record.length ≠ 8) ∧
        receiver.read.toNat + receiver.lost.toNat = records.length) ∧
    (Delivery.run (fun _ => none) receiver.batches.toList).text =
      String.join ((records.filter fun record => record.length = 8).map Knock.recordLine) := by
  intro records receiver
  have htakes : Takes {} records receiver := takes_run wakeups remaining
  have hread :
      receiver.read = UInt64.ofNat (records.countP fun record => record.length = 8) := by
    rw [htakes.read, length_knocks]
    exact UInt64.zero_add _
  have hlost :
      receiver.lost = UInt64.ofNat (records.countP fun record => record.length ≠ 8) := by
    rw [htakes.lost, strays_eq]
    exact UInt64.zero_add _
  refine ⟨⟨hread, hlost⟩, fun hbound => ?_, ?_⟩
  · -- neither counter has come to its end
    have hsum := countP_add_countP records
    rw [hread, hlost, UInt64.toNat_ofNat', UInt64.toNat_ofNat', Nat.mod_eq_of_lt (by omega),
      Nat.mod_eq_of_lt (by omega)]
    exact ⟨rfl, rfl, hsum⟩
  · have hpending : receiver.pending = "" := pending_finish _ _
    calc
      (Delivery.run (fun _ => none) receiver.batches.toList).text =
          String.join receiver.batches.toList := Delivery.text_run_of_accepting _
      _ = receiver.text := by rw [Receiver.text, hpending, String.append_empty]
      _ = String.join ((knocks records).map Knock.line) := by
        rw [htakes.text]
        exact String.empty_append
      _ = String.join ((records.filter fun record => record.length = 8).map Knock.recordLine) := by
        rw [map_line_knocks]

/-- Two knocks and two records of other lengths, which come in before a tick, after it and at the
end. -/
theorem accounts_of_run_of_other_lengths :
    let records : List (List UInt8) := [[4, 3, 2, 1, 0, 80, 9, 9], [1]]
    let receiver := run [.records records, .tick, .records [[]]] [[1, 1, 0, 10, 255, 255, 0, 0]]
    receiver.read.toNat = 2 ∧ receiver.lost.toNat = 2 ∧
      (Delivery.run (fun _ => none) receiver.batches.toList).text =
        "1.2.3.4,80\n10.0.1.1,65535\n" := by
  intro records receiver
  obtain ⟨-, hcounts, htext⟩ :=
    accounts_of_run [.records records, .tick, .records [[]]] [[1, 1, 0, 10, 255, 255, 0, 0]]
  obtain ⟨hread, hlost, -⟩ := hcounts (by decide)
  exact ⟨hread.trans (by decide), hlost.trans (by decide), htext.trans (by decide +kernel)⟩

end Receiver

end PortKnock
