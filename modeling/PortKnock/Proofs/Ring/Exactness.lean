import Mathlib.Data.List.Infix
import Mathlib.Order.Bounds.Defs
import PortKnock.Proofs.Ring.Progress
import PortKnock.Proofs.Ring.Readiness

/-!
# The arithmetic of the ring is exact

The ring computes in 64 bits and never looks whether a sum runs over.  Run by
`checked`, the same code looks at every sum and product: it fails where one does
not fit, and so tells of every single computation that it was exact if it does
not fail.

## Strategy

Checked work is `Exact` from a ring if it does not fail and does what the work
itself does.  Exactness of composed work follows from that of its parts
(`Exact.bind`), so each function of the ring takes one lemma, whose hypotheses say
how far from the end of the positions it has to be called.  The layout of the
ring supplies them: what is in use and what is admitted is at most one round
each, and the header that the reader finds is one of a reservation, which ends
before the producer position.
-/

namespace PortKnock.Ring

open Octets Access

/-! ## Arithmetic that fails where it would run over -/

/-- Sums and products as they are, or a failure if they do not fit into 64 bits. -/
def checked : Arithmetic (OptionT Access) where
  sum a b := if a.toNat + b.toNat < 2 ^ 64 then return a + b else failure
  product a b := if a.toNat * b.toNat < 2 ^ 64 then return a * b else failure

theorem checked_sum {a b : UInt64} (hlt : a.toNat + b.toNat < 2 ^ 64) :
    checked.sum a b = pure (a + b) :=
  if_pos hlt

theorem checked_product {a b : UInt64} (hlt : a.toNat * b.toNat < 2 ^ 64) :
    checked.product a b = pure (a * b) :=
  if_pos hlt

theorem toNat_add_of_lt {a b : UInt64} (hlt : a.toNat + b.toNat < 2 ^ 64) :
    (a + b).toNat = a.toNat + b.toNat := by
  rw [UInt64.toNat_add, Nat.mod_eq_of_lt hlt]

/-! ## Exact work -/

/-- Checked work does not fail, and does what the work itself does. -/
def Exact {α : Type} (checkedWork : OptionT Access α) (work : Access α) (ring : Ring) : Prop :=
  Access.run checkedWork.run ring = (some (work.run ring).1, (work.run ring).2)

namespace Exact

variable {α β : Type} {ring : Ring}

theorem pure (result : α) (ring : Ring) : Exact (Pure.pure result) (Pure.pure result) ring := rfl

theorem bind {checkedWork : OptionT Access α} {work : Access α} {next? : α → OptionT Access β}
    {next : α → Access β} {result : α} {ring' : Ring} (h : Exact checkedWork work ring)
    (hrun : work.run ring = (result, ring')) (hnext : Exact (next? result) (next result) ring') :
    Exact (checkedWork >>= next?) (work >>= next) ring := by
  unfold Exact at h hnext ⊢
  rw [OptionT.run_bind, Option.elimM, run_bind, h, run_bind, hrun]
  exact hnext

/-- Work that computes nothing is exact. -/
theorem lift (work : Access α) (ring : Ring) : Exact (OptionT.lift work) work ring := by
  show Access.run (work >>= fun result => Pure.pure (some result)) ring = _
  rw [run_bind, run_pure]

theorem lift_bind {work : Access α} {next? : α → OptionT Access β} {next : α → Access β}
    {result : α} {ring' : Ring} (hrun : work.run ring = (result, ring'))
    (hnext : Exact (next? result) (next result) ring') :
    Exact (OptionT.lift work >>= next?) (work >>= next) ring :=
  (lift work ring).bind hrun hnext

theorem sum {a b : UInt64} (hlt : a.toNat + b.toNat < 2 ^ 64) (ring : Ring) :
    Exact (checked.sum a b) (Arithmetic.wrapping.sum a b) ring := by
  rw [checked_sum hlt]
  rfl

theorem sum_bind {a b : UInt64} {next? : UInt64 → OptionT Access β} {next : UInt64 → Access β}
    (hlt : a.toNat + b.toNat < 2 ^ 64) (hnext : Exact (next? (a + b)) (next (a + b)) ring) :
    Exact (checked.sum a b >>= next?) (Arithmetic.wrapping.sum a b >>= next) ring :=
  (sum hlt ring).bind rfl hnext

theorem product_bind {a b : UInt64} {next? : UInt64 → OptionT Access β}
    {next : UInt64 → Access β} (hlt : a.toNat * b.toNat < 2 ^ 64)
    (hnext : Exact (next? (a * b)) (next (a * b)) ring) :
    Exact (checked.product a b >>= next?) (Arithmetic.wrapping.product a b >>= next) ring := by
  rw [checked_product hlt]
  exact (Exact.pure (a * b) ring).bind rfl hnext

theorem map {checkedWork : OptionT Access α} {work : Access α} (f : α → β)
    (h : Exact checkedWork work ring) : Exact (f <$> checkedWork) (f <$> work) ring :=
  h.bind rfl (Exact.pure _ _)

theorem ite {condition : Prop} [Decidable condition] {checkedWork checkedWork' : OptionT Access α}
    {work work' : Access α} (hthen : condition → Exact checkedWork work ring)
    (helse : ¬ condition → Exact checkedWork' work' ring) :
    Exact (if condition then checkedWork else checkedWork')
      (if condition then work else work') ring := by
  split
  · exact hthen ‹_›
  · exact helse ‹_›

end Exact

/-! ## Sizes of records -/

theorem exact_recordLength {length : UInt64} (hlength : length.toNat < 2 ^ 63) (ring : Ring) :
    Exact (recordLengthBy checked length) (recordLengthBy .wrapping length) ring := by
  have hdiv : (length / 8).toNat = length.toNat / 8 := by simp
  have hrest : (if length % 8 = 0 then (0 : UInt64) else 1).toNat ≤ 1 := by
    split <;> decide
  have hsum : (length / 8).toNat + (if length % 8 = 0 then (0 : UInt64) else 1).toNat < 2 ^ 64 := by
    omega
  have hwords := toNat_add_of_lt hsum
  refine Exact.sum_bind hsum ?_
  -- from here on only the number of words matters
  generalize (length / 8 + if length % 8 = 0 then 0 else 1) = words at hwords ⊢
  have height : (8 : UInt64).toNat = 8 := rfl
  have hheader : headerSize.toNat = 8 := rfl
  refine Exact.product_bind (by rw [height]; omega) ?_
  have hoctets : (words * 8).toNat = 8 * words.toNat := by
    rw [UInt64.toNat_mul, height]
    omega
  exact Exact.sum (by omega) ring

theorem run_recordLength (length : UInt64) (ring : Ring) :
    Access.run (recordLengthBy .wrapping length) ring = (recordLength length, ring) := rfl

/-- The octets of a record are the least whole number of words that hold header and payload. -/
theorem isLeast_recordLength {length : UInt64} (hlength : length.toNat < 2 ^ 63) :
    IsLeast {size | 8 ∣ size ∧ length.toNat + 8 ≤ size} (recordLength length).toNat := by
  rw [toNat_recordLength hlength, footprint, wordsFor]
  constructor
  · exact ⟨⟨_, rfl⟩, by omega⟩
  · rintro size ⟨⟨words, rfl⟩, hle⟩
    omega

/-! ## Writing -/

variable {ring : Ring} {log : List Reservation} {passed : Nat} {data : List UInt8}

/-- With nobody else around, a reservation is decided by the first attempt. -/
theorem exact_reserveWithin {byteSize total : UInt64} (attempts : Nat) (ring : Ring)
    (hclaimed : (distance ring.producerPos ring.consumerPos).toNat + total.toNat < 2 ^ 64)
    (hbehind : ring.producerPos.toNat + total.toNat < 2 ^ 64) :
    Exact (reserveWithinBy checked byteSize total (attempts + 1))
      (reserveWithin byteSize total (attempts + 1)) ring := by
  refine Exact.lift_bind (run_loadProducer ring) ?_
  refine Exact.lift_bind (run_loadConsumer ring) ?_
  refine Exact.sum_bind hclaimed ?_
  refine Exact.ite (fun _ => Exact.pure _ _) fun _ => ?_
  refine Exact.sum_bind hbehind ?_
  exact Exact.lift_bind (run_swapProducer_self _ ring) (Exact.pure _ _)

/-- Copying a payload ends before the positions do. -/
theorem exact_storeOctets (octets : List UInt8) :
    ∀ (pos : UInt64) (ring : Ring), pos.toNat + 8 * (payloadWords octets).length < 2 ^ 64 →
      Exact (storeOctetsBy checked pos octets) (storeOctets pos octets) ring := by
  fun_induction payloadWords octets with
  | case1 =>
    intro pos ring _
    rw [storeOctetsBy, storeOctets_nil]
    exact Exact.pure _ _
  | case2 first rest ih =>
    intro pos ring hend
    have height : (8 : UInt64).toNat = 8 := rfl
    rw [List.length_cons] at hend
    have hbehind : pos.toNat + (8 : UInt64).toNat < 2 ^ 64 := by omega
    have hpos := toNat_add_of_lt hbehind
    rw [storeOctets, storeOctetsBy, storeOctetsBy]
    refine Exact.lift_bind (run_storeWord ring _ _) ?_
    exact Exact.sum_bind hbehind (ih _ _ (by omega))

theorem exact_writePayload {pos : UInt64} (ring : Ring)
    (hend : pos.toNat + footprint data.length < 2 ^ 64) :
    Exact (writePayloadBy checked pos data) (writePayload pos data) ring := by
  have hheader : headerSize.toNat = 8 := rfl
  have hwords := length_payloadWords_add_one data
  rw [footprint] at hend
  have hfirst : pos.toNat + headerSize.toNat < 2 ^ 64 := by omega
  have hpos := toNat_add_of_lt hfirst
  exact Exact.sum_bind hfirst (exact_storeOctets data _ ring (by omega))

/-- What is in use and what is asked for are one round at most each, so that their sum fits. -/
theorem exact_reserve (settled : Settled ring log passed) (hdata : Admissible ring.byteSize data)
    (hroom : ring.producerPos.toNat + ring.byteSize.toNat < 2 ^ 64) :
    Exact (reserveWithinBy checked ring.byteSize (total data) reserveAttempts)
      (reserveWithin ring.byteSize (total data) reserveAttempts) ring := by
  have layout := settled.layout
  have hproducer := layout.producer_eq
  have hconsumer := layout.consumer_eq
  have hfits := layout.fits
  have hbyteSize := layout.wellFormed.byteSize_eq
  have hle63 := layout.wellFormed.byteSize_le
  have htotal := hdata.toNat_total
  have hlt := hdata.toNat_total_lt
  have hle := hdata.footprint_le
  have hclaimed : (distance ring.producerPos ring.consumerPos).toNat + (total data).toNat <
      2 ^ 64 := by
    rw [toNat_distance]
    omega
  have hbehind : ring.producerPos.toNat + (total data).toNat < 2 ^ 64 := by omega
  exact exact_reserveWithin _ ring hclaimed hbehind

/-- No record that there is room for reaches the end of the positions. -/
theorem exact_output (settled : Settled ring log passed)
    (hroom : ring.producerPos.toNat + ring.byteSize.toNat < 2 ^ 64) (flags : UInt64)
    (hlength : data.length < 2 ^ 63) :
    Exact (outputBy checked ring.byteSize data flags) (output ring.byteSize data flags) ring := by
  have hnumber : (UInt64.ofNat data.length).toNat = data.length := by
    rw [UInt64.toNat_ofNat']
    exact Nat.mod_eq_of_lt (by omega)
  refine Exact.ite (fun _ => Exact.pure _ _) fun hempty => ?_
  refine (exact_recordLength (by omega) ring).bind (run_recordLength _ ring) ?_
  refine Exact.ite (fun _ => Exact.pure _ _) fun hlarge => ?_
  -- the payload is one that an empty ring has room for
  simp only [gt_iff_lt, Bool.or_eq_true, decide_eq_true_eq, not_or, Nat.not_lt] at hlarge
  obtain ⟨hsize, hlength⟩ := hlarge
  rw [UInt64.not_lt, UInt64.le_iff_toNat_le, toNat_recordLength_ofNat hlength] at hsize
  have hdata : Admissible ring.byteSize data := ⟨by simpa using hempty, hsize, hlength⟩
  have htotal := hdata.toNat_total_lt
  have hreserve : (reserveWithin ring.byteSize (total data) reserveAttempts).run ring =
      if ring.byteSize.toNat < used log passed + (total data).toNat then (.error .full, ring)
      else (.ok ring.producerPos, { ring with producerPos := ring.producerPos + total data }) :=
    run_reserveWithin settled.layout (by omega)
  have hexact := exact_reserve settled hdata hroom
  split at hreserve
  · exact hexact.bind hreserve (Exact.pure _ _)
  · refine hexact.bind hreserve ?_
    refine (exact_writePayload _ (by omega)).bind rfl ?_
    exact Exact.lift_bind rfl (Exact.lift_bind rfl (Exact.pure _ _))

/-! ## Reading -/

section Reading

variable {stop pos : UInt64} {count : Nat}

/-- Where the end is a number of whole words away, no step goes over it. -/
theorem exact_takeWords (fuel : Nat) (hstop : stop.toNat = pos.toNat + 8 * count)
    (taken : List UInt64) (ring : Ring) :
    Exact (takeWordsBy checked stop fuel pos taken) (takeWords stop fuel pos taken) ring := by
  induction fuel generalizing pos count taken ring with
  | zero => exact Exact.pure _ _
  | succ fuel ih =>
    refine Exact.ite (fun hlt => ?_) fun _ => Exact.pure _ _
    rw [UInt64.lt_iff_toNat_lt] at hlt
    have hstopLt := stop.toNat_lt
    have height : (8 : UInt64).toNat = 8 := rfl
    have hbehind : pos.toNat + (8 : UInt64).toNat < 2 ^ 64 := by omega
    have hpos := toNat_add_of_lt hbehind
    refine Exact.lift_bind (run_loadWord pos ring) ?_
    refine Exact.lift_bind (run_storeWord ring pos 0) ?_
    have hrest : stop.toNat = (pos + 8).toNat + 8 * (count - 1) := by omega
    exact Exact.sum_bind hbehind (ih hrest _ _)

/-- The loop takes all words up to the end, and ends there by itself. -/
theorem length_takeWords (fuel : Nat) (hstop : stop.toNat = pos.toNat + 8 * count)
    (taken : List UInt64) (ring : Ring) :
    ((takeWords stop fuel pos taken).run ring).1.length = taken.length + min fuel count := by
  induction fuel generalizing pos count taken ring with
  | zero => simp [takeWords_zero]
  | succ fuel ih =>
    have hbefore : pos < stop ↔ 0 < count := by
      rw [UInt64.lt_iff_toNat_lt]
      omega
    rw [takeWords_succ]
    by_cases hlt : pos < stop
    · have hcount := hbefore.mp hlt
      have hstopLt := stop.toNat_lt
      have height : (8 : UInt64).toNat = 8 := rfl
      have hpos : (pos + 8).toNat = pos.toNat + (8 : UInt64).toNat := toNat_add_of_lt (by omega)
      have hrest : stop.toNat = (pos + 8).toNat + 8 * (count - 1) := by omega
      rw [if_pos hlt, run_bind, run_loadWord, run_bind, run_storeWord, ih hrest, List.length_cons]
      omega
    · have hcount := mt hbefore.mpr hlt
      rw [if_neg hlt, run_pure, List.length_reverse]
      omega

end Reading

/-- The words of the payload are all words of the record but its header. -/
theorem toNat_end_eq_first_add (layout : Layout ring log passed fun _ => False) {r : Reservation}
    (hk : log[passed]? = some r) :
    (ring.consumerPos + recordLength (UInt64.ofNat r.data.length)).toNat =
      (ring.consumerPos + headerSize).toNat + 8 * (r.words - 1) := by
  have hend := layout.toNat_end hk
  have hfirst := layout.toNat_first hk
  have hconsumer := layout.consumer_eq
  have hwords := r.words_pos
  rw [total] at hend
  omega

/-- The record that the reader takes ends before the producer position. -/
theorem exact_takeRecord (settled : Settled ring log passed) {r : Reservation}
    (hk : log[passed]? = some r) :
    Exact (takeRecordBy checked ring.consumerPos r.header) (takeRecord ring.consumerPos r.header)
      ring := by
  have layout := settled.layout
  have hvalid := layout.valid r (List.mem_of_getElem? hk)
  have hmask : lengthMask.toNat = 2 ^ 32 - 1 := rfl
  have hlength := hvalid.length_le
  have hdata := toNat_ofNat_length hlength
  have htotal := hvalid.toNat_recordLength
  have hend := layout.toNat_end hk
  have hconsumer := layout.consumer_eq
  have hwords := r.words_pos
  have hheader : headerSize.toNat = 8 := rfl
  have hendLt := (ring.consumerPos + total r.data).toNat_lt
  rw [takeRecord, takeRecordBy, takeRecordBy, hvalid.header_and_lengthMask]
  refine (exact_recordLength (by omega) ring).bind (run_recordLength _ ring) ?_
  refine Exact.sum_bind (by omega) ?_
  refine Exact.sum_bind (by omega) ?_
  refine (exact_takeWords _ (toNat_end_eq_first_add layout hk) _ _).bind rfl ?_
  exact Exact.lift_bind rfl (Exact.lift_bind rfl (Exact.pure _ _))

theorem exact_next (settled : Settled ring log passed) : Exact (nextBy checked) next ring := by
  have htaken : isCommitted (ring.word ring.consumerPos) = true →
      Exact (some <$> takeRecordBy checked ring.consumerPos (ring.word ring.consumerPos))
        (some <$> takeRecord ring.consumerPos (ring.word ring.consumerPos)) ring := by
    intro hheader
    obtain ⟨r, hk, _, hword⟩ := Reading.exists_of_isCommitted settled.layout hheader
    rw [hword]
    exact (exact_takeRecord settled hk).map some
  refine Exact.lift_bind (run_loadConsumer ring) ?_
  refine Exact.lift_bind (run_loadWord _ ring) ?_
  refine Exact.ite htaken fun hmissing => ?_
  refine Exact.lift_bind (run_reset ring) ?_
  refine Exact.lift_bind (run_loadWord _ _) ?_
  -- the header has not come up in between
  exact Exact.ite (fun hfound => absurd hfound hmissing) fun _ => Exact.pure _ _

/-- Whatever header the reader finds, there are as many words to take as its record has behind
it, which are fewer than it would try. -/
theorem length_takeWords_of_isCommitted (settled : Settled ring log passed)
    (hheader : isCommitted (ring.word ring.consumerPos) = true) :
    let size := recordLength (ring.word ring.consumerPos &&& lengthMask)
    size.toNat / 8 - 1 < (size / 8).toNat ∧
      ∀ fuel ring',
        ((takeWords (ring.consumerPos + size) fuel (ring.consumerPos + headerSize) []).run
          ring').1.length = min fuel (size.toNat / 8 - 1) := by
  obtain ⟨r, hk, _, hword⟩ := Reading.exists_of_isCommitted settled.layout hheader
  have hvalid := settled.layout.valid r (List.mem_of_getElem? hk)
  have hsize := hvalid.toNat_recordLength
  have hwords := r.words_pos
  have height : (8 : UInt64).toNat = 8 := rfl
  rw [hword, hvalid.header_and_lengthMask]
  refine ⟨?_, fun fuel ring' => ?_⟩
  · rw [UInt64.toNat_div, hsize, height]
    omega
  · rw [length_takeWords fuel (toNat_end_eq_first_add settled.layout hk), hsize, List.length_nil]
    omega

/-! ## Every state of a run -/

/-- No call publishes more than the ring holds. -/
theorem publishedBy_le (ring : Ring) (op : Op) :
    publishedBy op (ring.call op).1 ≤ ring.byteSize.toNat := by
  cases op with
  | next => exact Nat.zero_le _
  | output data flags =>
    have hcall : (ring.call (.output data flags)).1 =
        .written ((output ring.byteSize data flags).run ring).1 := rfl
    rw [hcall]
    by_cases hempty : data = []
    · rw [hempty, output_nil, run_pure]
      exact Nat.zero_le _
    by_cases hlarge : ring.byteSize.toNat < footprint data.length ∨ 2 ^ 32 - 1 < data.length
    · rw [output_of_tooLarge hempty flags hlarge, run_pure]
      exact Nat.zero_le _
    cases ((output ring.byteSize data flags).run ring).1 with
    | error refusal => exact Nat.zero_le _
    | ok => exact Nat.le_of_not_lt (mt Or.inl hlarge)

/-- A ring of which no position has come within one round of the end. -/
theorem settled_of_bounded {size : UInt64} (hmake : make size = .ok ring) (ops : List Op)
    (hbound : ∀ past, past <+: ops → (ring.after past).producerPos.toNat + size.toNat < 2 ^ 64) :
    ∃ log passed, Settled (ring.after ops) log passed ∧ (ring.after ops).byteSize = size := by
  induction ops using List.reverseRecOn with
  | nil =>
    obtain ⟨_, _, rfl⟩ := make_eq_ok hmake
    exact ⟨[], 0, settled_of_make hmake, rfl⟩
  | append_singleton ops op ih =>
    obtain ⟨log, passed, settled, hsize⟩ :=
      ih fun past hpast => hbound past (hpast.trans (List.prefix_append _ _))
    have hroom := hbound ops (List.prefix_append _ _)
    have hpublished := publishedBy_le (ring.after ops) op
    have hframed : framed log = (ring.after ops).producerPos.toNat :=
      settled.layout.producer_eq.symm
    obtain ⟨log', passed', settled', hsize', _⟩ := agrees_of_settled settled op (by
      rw [hsize] at hpublished
      omega)
    rw [after_concat]
    exact ⟨log', passed', settled', hsize'.trans hsize⟩

/-- Between calls, as long as no position comes within one round of the end of 64 bits: no
computation of `output` or of `next` runs over, a record is as long as the fewest whole words that
hold its header and its payload, masking gives the word of every position, and the reader takes as
many words as its record has behind the header, however many it would have tried; it does try more
than those. -/
theorem arithmetic_exact {size : UInt64} (hmake : make size = .ok ring) (ops : List Op)
    (hbound : ∀ past, past <+: ops → (ring.after past).producerPos.toNat + size.toNat < 2 ^ 64) :
    let now := ring.after ops
    (∀ data flags, data.length < 2 ^ 63 →
      Exact (outputBy checked now.byteSize data flags) (output now.byteSize data flags) now) ∧
    Exact (nextBy checked) next now ∧
    (∀ length : UInt64, length.toNat < 2 ^ 63 →
      IsLeast {octets | 8 ∣ octets ∧ length.toNat + 8 ≤ octets} (recordLength length).toNat) ∧
    (∀ pos : UInt64, now.slot pos = pos.toNat / 8 % (size.toNat / 8) ∧
      now.slot pos < now.words.size) ∧
    (isCommitted (now.word now.consumerPos) = true →
      let total := recordLength (now.word now.consumerPos &&& lengthMask)
      total.toNat / 8 - 1 < (total / 8).toNat ∧
      ∀ fuel ring',
        ((takeWords (now.consumerPos + total) fuel (now.consumerPos + headerSize) []).run
          ring').1.length = min fuel (total.toNat / 8 - 1)) := by
  intro now
  obtain ⟨log, passed, settled, hsize⟩ := settled_of_bounded hmake ops hbound
  have hroom : now.producerPos.toNat + now.byteSize.toNat < 2 ^ 64 := by
    rw [hsize]
    exact hbound ops List.prefix_rfl
  refine ⟨fun data flags hlength => exact_output settled hroom flags hlength, exact_next settled,
    fun length hlength => isLeast_recordLength hlength, fun pos => ?_,
    length_takeWords_of_isCommitted settled⟩
  have wellFormed : now.WellFormed := settled.layout.wellFormed
  have hwords : now.words.size = size.toNat / 8 := by
    rw [← hsize, wellFormed.byteSize_eq]
    omega
  rw [slot_eq_mod wellFormed, ← hwords]
  exact ⟨rfl, Nat.mod_lt _ (Nat.lt_of_lt_of_le Nat.two_pos wellFormed.two_le_size)⟩

/-- The second record runs over the end of a ring of four words: its header is the last word, and
the one word of its payload the first. -/
theorem arithmetic_exact_over_the_end :
    let ring : Ring := { words := #[0, 0, 0, 0], byteSize := 32 }
    let ops : List Op := [.output [1, 2, 3, 4, 5, 6, 7, 8, 9] 0, .next, .output [10, 11] 0]
    let now : Ring := { words := #[0x0b0a, 0, 0, 0x8000000000000002], byteSize := 32,
                        producerPos := 40, consumerPos := 24, ready := true }
    make 32 = .ok ring ∧ ring.after ops = now ∧
      Exact (outputBy checked 32 [12] 0) (output 32 [12] 0) now ∧ Exact (nextBy checked) next now ∧
      now.slot 32 = 0 ∧ ((takeWords 40 2 32 []).run now).1.length = 1 := by
  intro ring ops now
  have hmake : make 32 = .ok ring := rfl
  have hnow : ring.after ops = now := by decide +kernel
  have hbound : ∀ past ∈ ops.inits,
      (ring.after past).producerPos.toNat + (32 : UInt64).toNat < 2 ^ 64 := by decide +kernel
  have hexact := arithmetic_exact hmake ops fun past hpast =>
    hbound past ((List.mem_inits past ops).mpr hpast)
  have hheader : isCommitted (now.word 24) = true := by decide +kernel
  have htotal : recordLength (now.word 24 &&& lengthMask) = 16 := by decide +kernel
  rw [hnow] at hexact
  obtain ⟨houtput, hnext, _, hslot, htaken⟩ := hexact
  replace htaken := (htaken hheader).2 2 now
  rw [show now.consumerPos = 24 from rfl, htotal] at htaken
  exact ⟨hmake, hnow, houtput [12] 0 (by decide), hnext, (hslot 32).1, htaken⟩

end PortKnock.Ring
