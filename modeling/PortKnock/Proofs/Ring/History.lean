import PortKnock.Proofs.Ring.Payload

/-!
# The history of a ring

A history lists all reservations ever made, in the order in which they were
won.  Their records lie behind each other on the unrolled storage, so the
history alone says where each of them starts (`start`), and two of them never
share a word (`word_ne_word`).
-/

namespace PortKnock.Ring

/-- A reservation as the history of a ring keeps it. -/
structure Reservation where
  data : List UInt8
  flags : UInt64
  /-- The position that was won, where the header goes. -/
  pos : UInt64
  /-- Whether the header has been stored. -/
  committed : Bool := false
  deriving DecidableEq, Repr

namespace Reservation

/-- Words that the record takes. -/
def words (reservation : Reservation) : Nat :=
  wordsFor reservation.data.length

def header (reservation : Reservation) : UInt64 :=
  committedHeader (UInt64.ofNat reservation.data.length)

/-- The words of the complete record. -/
def image (reservation : Reservation) : List UInt64 :=
  reservation.header :: payloadWords reservation.data

/-- Only payloads of these lengths are ever reserved for. -/
structure Valid (reservation : Reservation) : Prop where
  ne_nil : reservation.data ≠ []
  length_le : reservation.data.length ≤ lengthMask.toNat

/-- The header of a record gives the length of its payload. -/
theorem Valid.header_and_lengthMask {reservation : Reservation} (hvalid : reservation.Valid) :
    reservation.header &&& lengthMask = UInt64.ofNat reservation.data.length := by
  apply committedHeader_and_lengthMask
  rw [toNat_ofNat_length hvalid.length_le]
  exact hvalid.length_le

theorem Valid.toNat_recordLength {reservation : Reservation} (hvalid : reservation.Valid) :
    (recordLength (UInt64.ofNat reservation.data.length)).toNat = 8 * reservation.words :=
  toNat_recordLength_ofNat hvalid.length_le

@[simp] theorem length_image (reservation : Reservation) :
    reservation.image.length = reservation.words :=
  length_payloadWords_add_one _

theorem lt_words_of_image {reservation : Reservation} {o : Nat} {w : UInt64}
    (hw : reservation.image[o]? = some w) : o < reservation.words := by
  rw [← length_image]
  exact (List.getElem?_eq_some_iff.mp hw).1

theorem words_pos (reservation : Reservation) : 0 < reservation.words := by
  rw [words, wordsFor]
  omega

end Reservation

/-! ## Where records start -/

variable {log : List Reservation} {k j : Nat} {r : Reservation}

/-- The number of the word that holds the header of reservation `k`. -/
def start (log : List Reservation) (k : Nat) : Nat :=
  ((log.map Reservation.words).take k).sum

@[simp] theorem start_zero (log : List Reservation) : start log 0 = 0 := rfl

theorem start_succ (hk : log[k]? = some r) : start log (k + 1) = start log k + r.words := by
  rw [start, List.take_add_one, List.getElem?_map, hk, List.sum_append]
  simp [start]

theorem start_append (more : List Reservation) (hk : k ≤ log.length) :
    start (log ++ more) k = start log k := by
  rw [start, List.map_append, List.take_append_of_le_length (by simpa using hk), start]

theorem start_le_start (hkj : k ≤ j) : start log k ≤ start log j := by
  obtain ⟨d, rfl⟩ := Nat.exists_eq_add_of_le hkj
  rw [start, start, List.take_add, List.sum_append]
  omega

/-- A record ends before the ones behind it start. -/
theorem start_add_words_le (hk : log[k]? = some r) (hkj : k < j) :
    start log k + r.words ≤ start log j := by
  rw [← start_succ hk]
  exact start_le_start hkj

theorem start_lt_start (hk : k < log.length) (hkj : k < j) : start log k < start log j := by
  have hle := start_add_words_le (List.getElem?_eq_getElem hk) hkj
  have hpos := log[k].words_pos
  omega

/-- No two records start at the same place, and none where the next one would. -/
theorem eq_of_start_eq_start (hk : k ≤ log.length) (hj : j ≤ log.length)
    (heq : start log k = start log j) : k = j := by
  rcases Nat.lt_trichotomy k j with hlt | rfl | hgt
  · have := start_lt_start (Nat.lt_of_lt_of_le hlt hj) hlt
    omega
  · rfl
  · have := start_lt_start (Nat.lt_of_lt_of_le hgt hk) hgt
    omega

/-- A record that is not passed lies between where the reader stands and where the next record
would be reserved. -/
theorem window_of_le {passed : Nat} (hk : log[k]? = some r) (hle : passed ≤ k) :
    start log passed ≤ start log k ∧ start log k + r.words ≤ start log log.length := by
  have hlt : k < log.length := (List.getElem?_eq_some_iff.mp hk).1
  exact ⟨start_le_start hle, start_add_words_le hk hlt⟩

/-- Words of different records are different words. -/
theorem word_ne_word {r' : Reservation} {o o' : Nat} (hk : log[k]? = some r)
    (hj : log[j]? = some r') (hne : j ≠ k) (ho : o < r.words) (ho' : o' < r'.words) :
    start log j + o' ≠ start log k + o := by
  rcases Nat.lt_or_gt_of_ne hne with hlt | hgt
  · have := start_add_words_le hj hlt
    omega
  · have := start_add_words_le hk hgt
    omega

/-- A complete record is another one than a record that is not complete. -/
theorem ne_of_committed {r' : Reservation} (hk : log[k]? = some r) (hj : log[j]? = some r')
    (hpending : r.committed = false) (hcommitted : r'.committed = true) : j ≠ k := by
  rintro rfl
  rw [hk, Option.some.injEq] at hj
  rw [hj, hcommitted] at hpending
  cases hpending

/-- The reservations of a history that has grown are the old ones and the new one. -/
theorem getElem?_concat_cases {r' : Reservation} (hk : (log ++ [r])[k]? = some r') :
    log[k]? = some r' ∨ k = log.length ∧ r' = r := by
  rcases Nat.lt_trichotomy k log.length with hlt | rfl | hgt
  · rw [List.getElem?_append_left hlt] at hk
    exact Or.inl hk
  · rw [List.getElem?_concat_length, Option.some.injEq] at hk
    exact Or.inr ⟨rfl, hk.symm⟩
  · rw [List.getElem?_eq_none (by simp; omega)] at hk
    cases hk

/-- Octets that all reservations of a history take, passed or not. -/
def framed (log : List Reservation) : Nat :=
  8 * start log log.length

theorem framed_concat (log : List Reservation) (r : Reservation) :
    framed (log ++ [r]) = framed log + 8 * r.words := by
  rw [framed, List.length_append, List.length_singleton, start_succ List.getElem?_concat_length,
    start_append [r] (Nat.le_refl _), Nat.mul_add, framed]

/-! ## Committing a reservation -/

/-- The history once the header of reservation `k` has been stored. -/
def commitAt (log : List Reservation) (k : Nat) : List Reservation :=
  log.modify k fun reservation => { reservation with committed := true }

@[simp] theorem length_commitAt (log : List Reservation) (k : Nat) :
    (commitAt log k).length = log.length :=
  List.length_modify ..

theorem getElem?_commitAt_self (hk : log[k]? = some r) :
    (commitAt log k)[k]? = some { r with committed := true } := by
  rw [commitAt, List.getElem?_modify_eq, hk]
  rfl

theorem getElem?_commitAt_of_ne (hne : k ≠ j) : (commitAt log k)[j]? = log[j]? :=
  List.getElem?_modify_ne _ _ hne

/-- The reservations of a history in which one has been committed are this one and the others. -/
theorem getElem?_commitAt_cases {r' : Reservation} (hk : log[k]? = some r)
    (hj : (commitAt log k)[j]? = some r') :
    j = k ∧ r' = { r with committed := true } ∨ j ≠ k ∧ log[j]? = some r' := by
  by_cases hjk : j = k
  · subst hjk
    rw [getElem?_commitAt_self hk, Option.some.injEq] at hj
    exact Or.inl ⟨rfl, hj.symm⟩
  · rw [getElem?_commitAt_of_ne (Ne.symm hjk)] at hj
    exact Or.inr ⟨hjk, hj⟩

/-- Committing changes nothing but whether a record is complete. -/
theorem exists_of_getElem?_commitAt (hj : (commitAt log k)[j]? = some r) :
    ∃ r', log[j]? = some r' ∧ r.data = r'.data ∧ r.flags = r'.flags ∧ r.pos = r'.pos ∧
      (r.committed = r'.committed ∨ j = k) := by
  rw [commitAt, List.getElem?_modify] at hj
  obtain ⟨r', hr', heq⟩ := Option.map_eq_some_iff.mp hj
  refine ⟨r', hr', ?_⟩
  split at heq <;> subst heq
  · rename_i hjk
    exact ⟨rfl, rfl, rfl, Or.inr hjk.symm⟩
  · exact ⟨rfl, rfl, rfl, Or.inl rfl⟩

theorem map_data_commitAt (log : List Reservation) (k : Nat) :
    (commitAt log k).map Reservation.data = log.map Reservation.data := by
  apply List.ext_getElem?
  intro j
  rw [List.getElem?_map, List.getElem?_map, commitAt, List.getElem?_modify]
  cases log[j]? with
  | none => rfl
  | some r => by_cases hkj : k = j <;> simp [hkj]

theorem start_commitAt (log : List Reservation) (k j : Nat) :
    start (commitAt log k) j = start log j := by
  have hwords : ∀ log : List Reservation,
      log.map Reservation.words = (log.map Reservation.data).map fun data =>
        wordsFor data.length := by
    intro log
    rw [List.map_map]
    rfl
  rw [start, hwords, map_data_commitAt, ← hwords, start]

theorem framed_commitAt (log : List Reservation) (k : Nat) :
    framed (commitAt log k) = framed log := by
  rw [framed, length_commitAt, start_commitAt, framed]

end PortKnock.Ring
