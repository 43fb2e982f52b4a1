import PortKnock.Proofs.Ring.Admission
import PortKnock.Proofs.Ring.History

/-!
# The layout of the ring

`Layout` says what the words of the ring are when the reader has passed the
first `passed` records of a history and has cleared some words, `gone`, of the
next one:

* the words of the records not yet passed hold what their writers have promised:
  a header that is zero until the record is complete, the whole record after;
* all words behind them, up to one round from where the reader stands, are zero.

Each of the ways in which writers and the reader change the ring keeps the
layout: reserving room, storing a word of a payload, committing a header,
clearing a word, and passing a record that is cleared.  Nothing here is about
who does it or when, so the same lemmas serve calls that follow each other and
calls that interleave.
-/

namespace PortKnock.Ring

variable {log : List Reservation} {k j : Nat} {r : Reservation}
variable {ring : Ring} {passed : Nat} {gone : Nat → Prop}

/-- What the ring holds when the reader has passed the first `passed` reservations of the history
and has cleared the words of the next one whose offsets are `gone`. -/
structure Layout (ring : Ring) (log : List Reservation) (passed : Nat) (gone : Nat → Prop) :
    Prop where
  wellFormed : ring.WellFormed
  passed_le : passed ≤ log.length
  consumer_eq : ring.consumerPos.toNat = 8 * start log passed
  producer_eq : ring.producerPos.toNat = 8 * start log log.length
  fits : start log log.length ≤ start log passed + ring.words.size
  valid : ∀ r ∈ log, r.Valid
  pos_eq : ∀ k r, log[k]? = some r → r.pos.toNat = 8 * start log k
  /-- The reader passes complete records only. -/
  committed_of_passed : ∀ k r, log[k]? = some r → k < passed → r.committed = true
  /-- The reader clears complete records only. -/
  committed_of_gone : ∀ o, gone o → ∃ r, log[passed]? = some r ∧ r.committed = true
  /-- Room that is not reserved is zero. -/
  free : ∀ i, start log log.length ≤ i → i < start log passed + ring.words.size →
    ring.cell i = 0
  /-- A record that is not complete has no header yet. -/
  pending : ∀ k r, log[k]? = some r → r.committed = false → ring.cell (start log k) = 0
  /-- A complete record is there as a whole, as far as it has not been cleared. -/
  held : ∀ k r o w, log[k]? = some r → r.committed = true → passed ≤ k →
    ¬ (k = passed ∧ gone o) → r.image[o]? = some w → ring.cell (start log k + o) = w
  cleared : ∀ r o, log[passed]? = some r → gone o → o < r.words →
    ring.cell (start log passed + o) = 0

namespace Layout

variable {o : Nat} {pos value : UInt64}

theorem le_of_pending (layout : Layout ring log passed gone) (hk : log[k]? = some r)
    (hcommitted : r.committed = false) : passed ≤ k := by
  rcases Nat.lt_or_ge k passed with hlt | hge
  · rw [layout.committed_of_passed k r hk hlt] at hcommitted
    cases hcommitted
  · exact hge

/-- The reader has caught up if it has passed all reservations. -/
theorem consumerPos_eq_producerPos_iff (layout : Layout ring log passed gone) :
    ring.consumerPos = ring.producerPos ↔ passed = log.length := by
  rw [← UInt64.toNat_inj, layout.consumer_eq, layout.producer_eq]
  constructor
  · intro heq
    exact eq_of_start_eq_start layout.passed_le (Nat.le_refl _) (by omega)
  · intro heq
    rw [heq]

/-- Storing a word of one record leaves all words of the others alone, and all that is free. -/
theorem cell_store_of_outside (layout : Layout ring log passed gone) (hk : log[k]? = some r)
    (hle : passed ≤ k) (ho : o < r.words) (hpos : pos.toNat / 8 = start log k + o) {i : Nat}
    (hlow : start log passed ≤ i) (hhigh : i < start log passed + ring.words.size)
    (hne : i ≠ start log k + o) : (ring.store pos value).cell i = ring.cell i := by
  have hwindow := window_of_le hk hle
  have hfits := layout.fits
  -- both words lie within one round from where the reader stands
  apply cell_store_of_ne layout.wellFormed <;> omega

/-- Storing a word of one record leaves the words of any other record alone. -/
theorem cell_store_of_other (layout : Layout ring log passed gone) {r' : Reservation} {o' : Nat}
    (hk : log[k]? = some r) (hle : passed ≤ k) (ho : o < r.words)
    (hpos : pos.toNat / 8 = start log k + o) (hj : log[j]? = some r') (hle' : passed ≤ j)
    (hne : j ≠ k) (ho' : o' < r'.words) :
    (ring.store pos value).cell (start log j + o') = ring.cell (start log j + o') := by
  have hwindow := window_of_le hj hle'
  have hfits := layout.fits
  exact layout.cell_store_of_outside hk hle ho hpos (by omega) (by omega)
    (word_ne_word hk hj hne ho ho')

/-- Storing a word of one record leaves the room alone that is not reserved. -/
theorem cell_store_of_free (layout : Layout ring log passed gone) (hk : log[k]? = some r)
    (hle : passed ≤ k) (ho : o < r.words) (hpos : pos.toNat / 8 = start log k + o) {i : Nat}
    (hlow : start log log.length ≤ i) (hhigh : i < start log passed + ring.words.size) :
    (ring.store pos value).cell i = 0 := by
  have hwindow := window_of_le hk hle
  rw [layout.cell_store_of_outside hk hle ho hpos (by omega) hhigh (by omega)]
  exact layout.free i hlow hhigh

/-! ### What writers do -/

/-- Reserving room for a record behind the last one. -/
theorem reserve (layout : Layout ring log passed gone) (hvalid : r.Valid)
    (hcommitted : r.committed = false) (hpos : r.pos = ring.producerPos)
    (hnew : pos.toNat = ring.producerPos.toNat + 8 * r.words)
    (hfits : start log log.length + r.words ≤ start log passed + ring.words.size) :
    Layout { ring with producerPos := pos } (log ++ [r]) passed gone := by
  have hstart : ∀ k ≤ log.length, start (log ++ [r]) k = start log k :=
    fun k hk => start_append [r] hk
  have hend : start (log ++ [r]) (log ++ [r]).length = start log log.length + r.words := by
    rw [List.length_append, List.length_singleton, start_succ List.getElem?_concat_length,
      hstart _ (Nat.le_refl _)]
  -- what was reserved before starts where it started
  have hpassed := hstart _ layout.passed_le
  have hsame : ∀ {k r'}, log[k]? = some r' → start (log ++ [r]) k = start log k :=
    fun hk => hstart _ (Nat.le_of_lt (List.getElem?_eq_some_iff.mp hk).1)
  have hold : ∀ o, gone o → passed < log.length := by
    intro o hgone
    obtain ⟨r', hr', _⟩ := layout.committed_of_gone o hgone
    exact (List.getElem?_eq_some_iff.mp hr').1
  constructor
  case wellFormed => exact ⟨layout.wellFormed.1, layout.wellFormed.2, layout.wellFormed.3⟩
  case passed_le =>
    have := layout.passed_le
    simp only [List.length_append]
    omega
  case consumer_eq => rw [hpassed]; exact layout.consumer_eq
  case producer_eq =>
    have := layout.producer_eq
    simp only [hend]
    omega
  case fits => rw [hend, hpassed]; exact hfits
  case valid =>
    intro r' hr'
    rcases List.mem_append.mp hr' with hr' | hr'
    · exact layout.valid r' hr'
    · rw [List.mem_singleton.mp hr']
      exact hvalid
  case pos_eq =>
    intro k r' hk
    rcases getElem?_concat_cases hk with hk | ⟨rfl, rfl⟩
    · rw [hsame hk]; exact layout.pos_eq k r' hk
    · rw [hstart _ (Nat.le_refl _), hpos]; exact layout.producer_eq
  case committed_of_passed =>
    intro k r' hk hlt
    rcases getElem?_concat_cases hk with hk | ⟨rfl, rfl⟩
    · exact layout.committed_of_passed k r' hk hlt
    · have := layout.passed_le
      omega
  case committed_of_gone =>
    intro o hgone
    obtain ⟨r', hr', hcommitted'⟩ := layout.committed_of_gone o hgone
    exact ⟨r', by rw [List.getElem?_append_left (hold o hgone)]; exact hr', hcommitted'⟩
  case free =>
    -- less is free than before
    intro i hlow hhigh
    rw [hend] at hlow
    rw [hpassed] at hhigh
    exact layout.free i (by omega) hhigh
  case pending =>
    intro k r' hk hpending
    rcases getElem?_concat_cases hk with hk | ⟨rfl, rfl⟩
    · rw [hsame hk]; exact layout.pending k r' hk hpending
    · -- the header of the new record lies where it was free
      have := r'.words_pos
      rw [hstart _ (Nat.le_refl _)]
      exact layout.free _ (Nat.le_refl _) (by omega)
  case held =>
    intro k r' o w hk hcommitted' hle hgone hw
    rcases getElem?_concat_cases hk with hk | ⟨rfl, rfl⟩
    · rw [hsame hk]; exact layout.held k r' o w hk hcommitted' hle hgone hw
    · -- nothing is promised of the new record yet
      rw [hcommitted] at hcommitted'
      cases hcommitted'
  case cleared =>
    intro r' o hr' hgone ho
    rw [List.getElem?_append_left (hold o hgone)] at hr'
    rw [hpassed]
    exact layout.cleared r' o hr' hgone ho

/-- Storing a word of a payload whose record is not complete. -/
theorem store_payload (layout : Layout ring log passed gone) (hk : log[k]? = some r)
    (hcommitted : r.committed = false) (ho : 0 < o) (ho' : o < r.words)
    (hpos : pos.toNat / 8 = start log k + o) :
    Layout (ring.store pos value) log passed gone := by
  have hle := layout.le_of_pending hk hcommitted
  have hfits := layout.fits
  refine { layout with
    wellFormed := layout.wellFormed.store pos value
    fits := by simpa using layout.fits
    free := ?free, pending := ?pending, held := ?held, cleared := ?cleared }
  case free =>
    intro i hlow hhigh
    rw [size_words_store] at hhigh
    exact layout.cell_store_of_free hk hle ho' hpos hlow hhigh
  case pending =>
    intro j r' hj hpending
    have hle' := layout.le_of_pending hj hpending
    have hwindow := window_of_le hj hle'
    have hwords := r'.words_pos
    -- the word may belong to the same record, but is not its header
    have hne : start log j ≠ start log k + o := by
      by_cases hjk : j = k
      · rw [hjk]; omega
      · exact word_ne_word hk hj hjk ho' hwords
    rw [layout.cell_store_of_outside hk hle ho' hpos hwindow.1 (by omega) hne]
    exact layout.pending j r' hj hpending
  case held =>
    intro j r' o' w hj hcommitted' hle' hgone hw
    have hjk := ne_of_committed hk hj hcommitted hcommitted'
    rw [layout.cell_store_of_other hk hle ho' hpos hj hle' hjk (Reservation.lt_words_of_image hw)]
    exact layout.held j r' o' w hj hcommitted' hle' hgone hw
  case cleared =>
    intro r' o' hj hgone ho''
    -- what the reader clears is complete, so it is not the record being written
    obtain ⟨r'', hr'', hcommitted'⟩ := layout.committed_of_gone o' hgone
    have hjk := ne_of_committed hk hr'' hcommitted hcommitted'
    rw [layout.cell_store_of_other hk hle ho' hpos hj (Nat.le_refl _) hjk ho'']
    exact layout.cleared r' o' hj hgone ho''

/-- Once its header is stored behind the payload, the whole record is in place. -/
theorem cell_store_header (layout : Layout ring log passed gone) (hk : log[k]? = some r)
    (hle : passed ≤ k)
    (hpayload : ∀ i w, (payloadWords r.data)[i]? = some w → ring.cell (start log k + 1 + i) = w)
    {w : UInt64} (hw : r.image[o]? = some w) :
    (ring.store r.pos r.header).cell (start log k + o) = w := by
  have hpos : r.pos.toNat / 8 = start log k + 0 := by
    rw [layout.pos_eq k r hk]
    omega
  cases o with
  | zero =>
    have hheader : w = r.header := by
      simpa [Reservation.image, Reservation.header] using hw.symm
    rw [hheader]
    exact cell_store_self layout.wellFormed hpos
  | succ i =>
    have hword : (payloadWords r.data)[i]? = some w := by simpa [Reservation.image] using hw
    have hi : i + 1 < r.words := Reservation.lt_words_of_image hw
    have hwindow := window_of_le hk hle
    have hfits := layout.fits
    rw [layout.cell_store_of_outside hk hle r.words_pos hpos (by omega) (by omega) (by omega),
      Nat.add_comm i 1, ← Nat.add_assoc]
    exact hpayload i w hword

/-- Storing the header of a record whose payload is there as a whole. -/
theorem commit (layout : Layout ring log passed gone) (hk : log[k]? = some r)
    (hcommitted : r.committed = false)
    (hpayload : ∀ i w, (payloadWords r.data)[i]? = some w → ring.cell (start log k + 1 + i) = w) :
    Layout (ring.store r.pos r.header) (commitAt log k) passed gone := by
  have hle := layout.le_of_pending hk hcommitted
  have hwords := r.words_pos
  have hpos : r.pos.toNat / 8 = start log k + 0 := by
    rw [layout.pos_eq k r hk]
    omega
  constructor
  case wellFormed => exact layout.wellFormed.store _ _
  case passed_le => simpa using layout.passed_le
  case consumer_eq => simpa [start_commitAt] using layout.consumer_eq
  case producer_eq => simpa [start_commitAt] using layout.producer_eq
  case fits => simpa [start_commitAt] using layout.fits
  case valid =>
    intro r' hr'
    obtain ⟨j, hj⟩ := List.getElem?_of_mem hr'
    obtain ⟨r'', hr'', hdata, _⟩ := exists_of_getElem?_commitAt hj
    have hvalid := layout.valid r'' (List.mem_of_getElem? hr'')
    exact ⟨by rw [hdata]; exact hvalid.ne_nil, by rw [hdata]; exact hvalid.length_le⟩
  case pos_eq =>
    intro j r' hj
    obtain ⟨r'', hr'', _, _, hpos', _⟩ := exists_of_getElem?_commitAt hj
    rw [hpos', start_commitAt]
    exact layout.pos_eq j r'' hr''
  case committed_of_passed =>
    intro j r' hj hlt
    rw [getElem?_commitAt_of_ne (by omega)] at hj
    exact layout.committed_of_passed j r' hj hlt
  case committed_of_gone =>
    -- the reader may be at the record that is completed now, or at another one
    intro o hgone
    obtain ⟨r', hr', hcommitted'⟩ := layout.committed_of_gone o hgone
    by_cases hjk : passed = k
    · exact ⟨_, by rw [hjk]; exact getElem?_commitAt_self hk, rfl⟩
    · exact ⟨r', by rw [getElem?_commitAt_of_ne (Ne.symm hjk)]; exact hr', hcommitted'⟩
  case free =>
    intro i hlow hhigh
    rw [length_commitAt, start_commitAt] at hlow
    rw [start_commitAt, size_words_store] at hhigh
    exact layout.cell_store_of_free hk hle hwords hpos hlow hhigh
  case pending =>
    intro j r' hj hpending
    rcases getElem?_commitAt_cases hk hj with ⟨_, rfl⟩ | ⟨hjk, hj⟩
    · cases hpending
    · rw [start_commitAt, ← Nat.add_zero (start log j), layout.cell_store_of_other hk hle hwords
        hpos hj (layout.le_of_pending hj hpending) hjk r'.words_pos]
      exact layout.pending j r' hj hpending
  case held =>
    intro j r' o w hj hcommitted' hle' hgone hw
    rw [start_commitAt]
    -- the record that is completed now is there as a whole; the others are where they were
    rcases getElem?_commitAt_cases hk hj with ⟨rfl, rfl⟩ | ⟨hjk, hj⟩
    · exact layout.cell_store_header hk hle hpayload hw
    · have ho := Reservation.lt_words_of_image hw
      rw [layout.cell_store_of_other hk hle hwords hpos hj hle' hjk ho]
      exact layout.held j r' o w hj hcommitted' hle' hgone hw
  case cleared =>
    intro r' o hj hgone ho
    obtain ⟨r'', hr'', hcommitted'⟩ := layout.committed_of_gone o hgone
    have hjk := ne_of_committed hk hr'' hcommitted hcommitted'
    rw [getElem?_commitAt_of_ne (Ne.symm hjk)] at hj
    rw [start_commitAt, layout.cell_store_of_other hk hle hwords hpos hj (Nat.le_refl _) hjk ho]
    exact layout.cleared r' o hj hgone ho

/-! ### What the reader does -/

/-- Clearing a word of the next record. -/
theorem clear (layout : Layout ring log passed gone) (hk : log[passed]? = some r)
    (hcommitted : r.committed = true) (ho : o < r.words)
    (hpos : pos.toNat / 8 = start log passed + o) :
    Layout (ring.store pos 0) log passed (fun o' => gone o' ∨ o' = o) := by
  have hfits := layout.fits
  have hwindow := window_of_le hk (Nat.le_refl _)
  have hother : ∀ {i}, start log passed ≤ i → i < start log passed + ring.words.size →
      i ≠ start log passed + o → (ring.store pos 0).cell i = ring.cell i :=
    fun hlow hhigh hne => layout.cell_store_of_outside hk (Nat.le_refl _) ho hpos hlow hhigh hne
  refine { layout with
    wellFormed := layout.wellFormed.store pos 0
    fits := by simpa using layout.fits
    committed_of_gone := ?committed_of_gone, free := ?free, pending := ?pending, held := ?held
    cleared := ?cleared }
  case committed_of_gone =>
    rintro o' (hgone | rfl)
    · exact layout.committed_of_gone o' hgone
    · exact ⟨r, hk, hcommitted⟩
  case free =>
    intro i hlow hhigh
    rw [size_words_store] at hhigh
    exact layout.cell_store_of_free hk (Nat.le_refl _) ho hpos hlow hhigh
  case pending =>
    intro j r' hj hpending
    have hjk := (ne_of_committed hj hk hpending hcommitted).symm
    rw [← Nat.add_zero (start log j), layout.cell_store_of_other hk (Nat.le_refl _) ho hpos hj
      (layout.le_of_pending hj hpending) hjk r'.words_pos]
    exact layout.pending j r' hj hpending
  case held =>
    intro j r' o' w hj hcommitted' hle hgone hw
    have hwindow' := window_of_le hj hle
    have ho' := Reservation.lt_words_of_image hw
    -- what is still there of the record itself is not the word that is cleared
    have hne : start log j + o' ≠ start log passed + o := by
      by_cases hjk : j = passed
      · subst hjk
        intro heq
        exact hgone ⟨rfl, Or.inr (by omega)⟩
      · exact word_ne_word hk hj hjk ho ho'
    rw [hother (by omega) (by omega) hne]
    exact layout.held j r' o' w hj hcommitted' hle (fun h => hgone ⟨h.1, Or.inl h.2⟩) hw
  case cleared =>
    intro r' o' hj hgone ho'
    rw [hk, Option.some.injEq] at hj
    subst hj
    by_cases heq : o' = o
    · subst heq
      exact cell_store_self layout.wellFormed hpos
    · rw [hother (by omega) (by omega) (by omega)]
      exact layout.cleared r o' hk (hgone.resolve_right heq) ho'

/-- Passing a record of which every word has been cleared. -/
theorem pass (layout : Layout ring log passed gone) (hk : log[passed]? = some r)
    (hcommitted : r.committed = true) (hgone : ∀ o < r.words, gone o)
    (hpos : pos.toNat = ring.consumerPos.toNat + 8 * r.words) :
    Layout { ring with consumerPos := pos } log (passed + 1) (fun _ => False) := by
  have hsucc := start_succ hk
  have hwindow := window_of_le hk (Nat.le_refl _)
  have hfits := layout.fits
  refine { layout with
    wellFormed := ⟨layout.wellFormed.1, layout.wellFormed.2, layout.wellFormed.3⟩
    passed_le := (List.getElem?_eq_some_iff.mp hk).1
    consumer_eq := ?consumer_eq, fits := ?fits, committed_of_passed := ?committed_of_passed
    committed_of_gone := fun _ h => h.elim
    free := ?free, held := ?held, cleared := fun _ _ _ h => h.elim }
  case consumer_eq =>
    have := layout.consumer_eq
    simp only
    omega
  case fits =>
    simp only
    omega
  case committed_of_passed =>
    intro k r' hk' hlt
    rcases Nat.lt_or_ge k passed with hlt' | hge
    · exact layout.committed_of_passed k r' hk' hlt'
    · have heq : k = passed := by omega
      rw [heq, hk, Option.some.injEq] at hk'
      rw [← hk']
      exact hcommitted
  case free =>
    intro i hlow hhigh
    show ring.cell i = 0
    rcases Nat.lt_or_ge i (start log passed + ring.words.size) with hlt | hge
    · exact layout.free i hlow hlt
    · -- one round before, this word belonged to the record that was passed
      obtain ⟨o, rfl⟩ := Nat.exists_eq_add_of_le hge
      have ho : o < r.words := by
        simp only at hhigh
        omega
      rw [Nat.add_right_comm, cell_add_size]
      exact layout.cleared r o hk (hgone o ho) ho
  case held =>
    intro k r' o w hk' hcommitted' hle _ hw
    exact layout.held k r' o w hk' hcommitted' (by omega) (fun h => by omega) hw

/-! ### What changes nothing, and the start -/

theorem setReady (layout : Layout ring log passed gone) (ready : Bool) :
    Layout { ring with ready } log passed gone :=
  { layout with wellFormed := ⟨layout.wellFormed.1, layout.wellFormed.2, layout.wellFormed.3⟩ }

theorem congr_gone {gone' : Nat → Prop} (layout : Layout ring log passed gone)
    (hgone : ∀ o, gone o ↔ gone' o) : Layout ring log passed gone' := by
  have heq : gone = gone' := funext fun o => propext (hgone o)
  rw [← heq]
  exact layout

theorem of_make {size : UInt64} (hmake : make size = .ok ring) :
    Layout ring [] 0 (fun _ => False) := by
  have hwf := wellFormed_of_make hmake
  have hcell := cell_of_make hmake
  obtain ⟨_, _, rfl⟩ := make_eq_ok hmake
  constructor
  case wellFormed => exact hwf
  case free => exact fun i _ _ => hcell i
  all_goals simp [start]

/-! ### What is read -/

/-- Every word of a record ends before the positions do. -/
theorem end_lt (layout : Layout ring log passed gone) (hk : log[k]? = some r) :
    8 * (start log k + r.words) < 2 ^ 64 := by
  have hproducer := layout.producer_eq
  have hlt := ring.producerPos.toNat_lt
  have hend := start_add_words_le hk (List.getElem?_eq_some_iff.mp hk).1
  omega

/-- The reader finds a header exactly if the next record is complete. -/
theorem word_consumerPos (layout : Layout ring log passed gone) (hgone : ¬ gone 0) :
    ring.word ring.consumerPos =
      match log[passed]? with
      | some r => if r.committed then r.header else 0
      | none => 0 := by
  have hnumber : ring.consumerPos.toNat / 8 = start log passed := by
    rw [layout.consumer_eq]
    omega
  rw [word_eq_cell layout.wellFormed, hnumber]
  cases hk : log[passed]? with
  | none =>
    have hend : passed = log.length :=
      Nat.le_antisymm layout.passed_le (List.getElem?_eq_none_iff.mp hk)
    have htwo := layout.wellFormed.two_le_size
    exact layout.free _ (Nat.le_of_eq (by rw [hend])) (by omega)
  | some r =>
    show ring.cell (start log passed) = if r.committed then r.header else 0
    by_cases hcommitted : r.committed
    · rw [if_pos hcommitted]
      exact layout.held passed r 0 r.header hk hcommitted (Nat.le_refl _)
        (fun h => hgone h.2) rfl
    · rw [if_neg hcommitted]
      exact layout.pending passed r hk (by simpa using hcommitted)

/-- The reader finds the words of the payload where it has not cleared them. -/
theorem word_payload (layout : Layout ring log passed gone) (hk : log[passed]? = some r)
    (hcommitted : r.committed = true) {i : Nat} {w : UInt64} (hgone : ¬ gone (i + 1))
    (hw : (payloadWords r.data)[i]? = some w)
    (hpos : pos.toNat / 8 = start log passed + (i + 1)) : ring.word pos = w := by
  rw [word_eq_cell layout.wellFormed, hpos]
  exact layout.held passed r (i + 1) w hk hcommitted (Nat.le_refl _) (fun h => hgone h.2)
    (by simpa [Reservation.image] using hw)

end Layout

/-! ## Words of a payload that are left -/

section Left

variable {taken rest : List UInt64} {word pos stop : UInt64}

/-- Words that are taken go to the front of the ones taken so far. -/
theorem lt_words_of_rest (hsplit : payloadWords r.data = taken.reverse ++ word :: rest) :
    taken.length + 1 < r.words := by
  have hlt := lt_wordsFor_of_split hsplit
  rw [List.length_reverse] at hlt
  exact hlt

theorem eq_words_of_end (hsplit : payloadWords r.data = taken.reverse) :
    taken.length + 1 = r.words := by
  rw [Reservation.words, ← length_payloadWords_add_one, hsplit, List.length_reverse]

/-- As long as words of the payload are left, the end of the record is not reached. -/
theorem lt_stop_of_rest (hsplit : payloadWords r.data = taken.reverse ++ word :: rest)
    (hstop : stop.toNat = 8 * (start log k + r.words))
    (hpos : pos.toNat = 8 * (start log k + 1 + taken.length)) : pos < stop := by
  have hwords := lt_words_of_rest hsplit
  rw [UInt64.lt_iff_toNat_lt]
  omega

theorem not_lt_stop_of_end (hsplit : payloadWords r.data = taken.reverse)
    (hstop : stop.toNat = 8 * (start log k + r.words))
    (hpos : pos.toNat = 8 * (start log k + 1 + taken.length)) : ¬ pos < stop := by
  have hwords := eq_words_of_end hsplit
  rw [UInt64.lt_iff_toNat_lt]
  omega

/-- No record has more words than the reader tries to take. -/
theorem length_payloadWords_lt (hvalid : r.Valid) :
    (payloadWords r.data).length < (total r.data / 8).toNat := by
  have hlength := length_payloadWords_add_one r.data
  have height : (8 : UInt64).toNat = 8 := rfl
  rw [UInt64.toNat_div, total, hvalid.toNat_recordLength, height, Reservation.words]
  omega

end Left

/-! ## Copying a payload -/

/-- The first words of the payload of reservation `k` are in place. -/
def Copied (ring : Ring) (log : List Reservation) (k : Nat) (words : List UInt64) : Prop :=
  ∀ i w, words[i]? = some w → ring.cell (start log k + 1 + i) = w

theorem copied_nil (ring : Ring) (log : List Reservation) (k : Nat) : Copied ring log k [] := by
  intro i w hw
  simp at hw

namespace Layout

variable {o : Nat} {pos value : UInt64} {done rest : List UInt64} {word : UInt64}

/-- What a reservation at `head` is compared with the size of the ring for. -/
theorem toNat_distance_add (layout : Layout ring log passed gone) {head total : UInt64}
    (hhead : head.toNat ≤ ring.producerPos.toNat) (htotal : total.toNat < 2 ^ 63) :
    (distance head ring.consumerPos + total).toNat =
      head.toNat - ring.consumerPos.toNat + total.toNat := by
  have hconsumer := layout.consumer_eq
  have hproducer := layout.producer_eq
  have hbyteSize := layout.wellFormed.byteSize_eq
  have hle63 := layout.wellFormed.byteSize_le
  have hfits := layout.fits
  rw [UInt64.toNat_add, toNat_distance]
  omega

/-- A reservation that is not refused stays within one round from where the reader stands, or is
behind the reader altogether. -/
theorem room_of_not_full {data : List UInt8} {head : UInt64}
    (layout : Layout ring log passed gone) (hdata : Admissible ring.byteSize data)
    (hhead : head.toNat ≤ ring.producerPos.toNat)
    (hroom : ¬ distance head ring.consumerPos + total data > ring.byteSize) :
    head.toNat + footprint data.length ≤ ring.consumerPos.toNat + ring.byteSize.toNat := by
  have hlt := hdata.toNat_total_lt
  have hfootprint := hdata.footprint_le
  rw [gt_iff_lt, UInt64.lt_iff_toNat_lt, layout.toNat_distance_add hhead (by omega),
    hdata.toNat_total] at hroom
  omega

/-- Reserving room for a payload, and where its words go then. -/
theorem reserve_data {data : List UInt8} (layout : Layout ring log passed gone)
    (hdata : Admissible ring.byteSize data) (flags : UInt64)
    (hbound : framed log + footprint data.length < 2 ^ 64)
    (hroom : ring.producerPos.toNat + footprint data.length ≤
      ring.consumerPos.toNat + ring.byteSize.toNat) :
    let log' := log ++ [⟨data, flags, ring.producerPos, false⟩]
    Layout { ring with producerPos := ring.producerPos + total data } log' passed gone ∧
      (ring.producerPos + headerSize).toNat = 8 * (start log' log.length + 1) := by
  intro log'
  let r : Reservation := ⟨data, flags, ring.producerPos, false⟩
  have hvalid : r.Valid := ⟨hdata.ne_nil, hdata.length_le⟩
  have hwords : footprint data.length = 8 * r.words := rfl
  have hproducer := layout.producer_eq
  have hconsumer := layout.consumer_eq
  have hbyteSize := layout.wellFormed.byteSize_eq
  unfold framed at hbound
  have hnew : (ring.producerPos + total data).toNat = ring.producerPos.toNat + 8 * r.words := by
    rw [UInt64.toNat_add, hdata.toNat_total]
    omega
  have layout' := layout.reserve hvalid rfl rfl hnew (by omega)
  refine ⟨layout', ?_⟩
  have hk : (log ++ [r])[log.length]? = some r := List.getElem?_concat_length
  have hend := layout'.end_lt hk
  have hpos := r.words_pos
  have hstart : start log' log.length = start log log.length := start_append [r] (Nat.le_refl _)
  rw [show start (log ++ [r]) log.length = start log log.length from hstart] at hend
  rw [hstart, UInt64.toNat_add, headerSize]
  simp only [UInt64.toNat_ofNat]
  omega

/-- Copying the next word of a payload. -/
theorem copy (layout : Layout ring log passed gone) (hk : log[k]? = some r)
    (hcommitted : r.committed = false) (hsplit : payloadWords r.data = done ++ word :: rest)
    (hpos : pos.toNat = 8 * (start log k + 1 + done.length)) (hcopied : Copied ring log k done) :
    Layout (ring.store pos word) log passed gone ∧
      Copied (ring.store pos word) log k (done ++ [word]) ∧
      (pos + 8).toNat = 8 * (start log k + 1 + (done ++ [word]).length) := by
  have hwords : done.length + 1 < r.words := lt_wordsFor_of_split hsplit
  have hnumber : pos.toNat / 8 = start log k + (1 + done.length) := by omega
  have hle := layout.le_of_pending hk hcommitted
  have hwindow := window_of_le hk hle
  have hfits := layout.fits
  refine ⟨layout.store_payload hk hcommitted (by omega) (by omega) hnumber, ?_, ?_⟩
  · intro i w hw
    rcases Nat.lt_or_ge i done.length with hlt | hge
    · rw [List.getElem?_append_left hlt] at hw
      rw [layout.cell_store_of_outside hk hle (by omega) hnumber (by omega) (by omega) (by omega)]
      exact hcopied i w hw
    · have hi : i = done.length := by
        have := (List.getElem?_eq_some_iff.mp hw).1
        simp only [List.length_append, List.length_singleton] at this
        omega
      subst hi
      rw [List.getElem?_concat_length, Option.some.injEq] at hw
      rw [← hw]
      exact cell_store_self layout.wellFormed (by omega)
  · have hend := layout.end_lt hk
    rw [UInt64.toNat_add, List.length_append, List.length_singleton]
    simp only [UInt64.toNat_ofNat]
    omega

/-! ## Taking a record -/

/-- The next word of a payload that is taken from the front. -/
theorem word_next {taken : List UInt64}
    (layout : Layout ring log passed (fun o => 0 < o ∧ o ≤ taken.length))
    (hk : log[passed]? = some r) (hcommitted : r.committed = true)
    (hsplit : payloadWords r.data = taken.reverse ++ word :: rest)
    (hpos : pos.toNat = 8 * (start log passed + 1 + taken.length)) : ring.word pos = word := by
  have hw : (payloadWords r.data)[taken.length]? = some word := by
    rw [hsplit, List.getElem?_append_right (by simp)]
    simp
  exact layout.word_payload hk hcommitted (by omega) hw (by omega)

/-- Clearing the next word of a payload. -/
theorem clear_next {taken : List UInt64}
    (layout : Layout ring log passed (fun o => 0 < o ∧ o ≤ taken.length))
    (hk : log[passed]? = some r) (hcommitted : r.committed = true)
    (hsplit : payloadWords r.data = taken.reverse ++ word :: rest)
    (hpos : pos.toNat = 8 * (start log passed + 1 + taken.length)) :
    Layout (ring.store pos 0) log passed (fun o => 0 < o ∧ o ≤ (word :: taken).length) ∧
      (pos + 8).toNat = 8 * (start log passed + 1 + (word :: taken).length) := by
  have hwords : taken.length + 1 < r.words := lt_words_of_rest hsplit
  have hend := layout.end_lt hk
  rw [List.length_cons]
  refine ⟨(layout.clear hk hcommitted hwords (by omega)).congr_gone fun o => by omega, ?_⟩
  rw [UInt64.toNat_add]
  simp only [UInt64.toNat_ofNat]
  omega

/-- Where the payload begins that the reader takes next. -/
theorem toNat_first (layout : Layout ring log passed gone) (hk : log[passed]? = some r) :
    (ring.consumerPos + headerSize).toNat = 8 * (start log passed + 1) := by
  have hend := layout.end_lt hk
  have hpos := r.words_pos
  rw [UInt64.toNat_add, headerSize, layout.consumer_eq]
  simp only [UInt64.toNat_ofNat]
  omega

/-- Where the record ends that the reader takes next. -/
theorem toNat_end (layout : Layout ring log passed gone) (hk : log[passed]? = some r) :
    (ring.consumerPos + total r.data).toNat = ring.consumerPos.toNat + 8 * r.words := by
  have hvalid := layout.valid r (List.mem_of_getElem? hk)
  have hend := layout.end_lt hk
  have hconsumer := layout.consumer_eq
  rw [UInt64.toNat_add, total, hvalid.toNat_recordLength]
  omega

end Layout

end PortKnock.Ring
