import PortKnock.Proofs.Ring.Reliance
import PortKnock.Proofs.Ring.Traffic

/-!
# From one sound stage to the next

One request of a writer, or of the reader, performed in a sound stage: the ring
keeps its layout, the stage that follows is sound again, and everybody else's
words are left alone.  There is one case for each request of the machines in
`PortKnock.Proofs.Ring.Stages`.
-/

namespace PortKnock.Ring

variable {ring ring' : Ring} {log : List Reservation} {passed : Nat} {gone : Nat → Prop}
variable {request : Request} {reply : request.Reply}

/-! ## Writers -/

/-- What one request of a writer leads to. -/
structure Writing.Advance (ring : Ring) (log : List Reservation) (passed : Nat)
    (gone : Nat → Prop) (place : Option Nat) (ring' : Ring) (log' : List Reservation)
    (place' : Option Nat) : Prop where
  layout : Layout ring' log' passed gone
  consumerPos_eq : ring'.consumerPos = ring.consumerPos
  /-- Nobody else is disturbed. -/
  beside : ∃ own, Beside own ring log ring' log' ∧ ∀ k, own = some k → place = some k
  /-- Only a place that was free is taken. -/
  place_eq : place' = place ∨ place' = some log.length

namespace Writing

variable {place : Option Nat}

theorem Advance.of_load (layout : Layout ring log passed gone) (place : Option Nat) :
    Advance ring log passed gone place ring log place :=
  ⟨layout, rfl, ⟨none, Beside.refl ring log, by simp⟩, Or.inl rfl⟩

/-- Storing a word of the payload is not storing the header. -/
theorem record_copy {call : Call} {k o : Nat} {r : Reservation} {pos value : UInt64}
    (layout : Layout ring log passed gone) (hplace : call.place = some k) (hk : log[k]? = some r)
    (ho : 0 < o) (hpos : pos.toNat = 8 * (start log k + o)) :
    call.record log (.storeWord pos value) () = (log, some k) := by
  have hother : ¬ log[k]?.map Reservation.pos = some pos := by
    rw [hk, Option.map_some, Option.some.injEq]
    intro heq
    have hself := layout.pos_eq k r hk
    rw [heq] at hself
    omega
  simp only [Call.record, hplace, if_neg hother]

/-- Storing the header completes the reservation. -/
theorem record_complete {call : Call} {k : Nat} {r : Reservation} {value : UInt64}
    (hplace : call.place = some k) (hk : log[k]? = some r) :
    call.record log (.storeWord r.pos value) () = (commitAt log k, some k) := by
  have hself : log[k]?.map Reservation.pos = some r.pos := by rw [hk, Option.map_some]
  simp only [Call.record, hplace, if_pos hself]

theorem sound_sealed {data : List UInt8} {flags pos : UInt64} {k : Nat}
    (hk : log[k]? = some ⟨data, flags, pos, true⟩) :
    (sealed flags pos).Sound ring log data flags (some k) := by
  unfold sealed
  split
  · exact .signalling hk
  · split
    · exact .deciding hk
    · exact .written hk

section Requests

variable {data : List UInt8} {flags : UInt64}

/-- Winning a swap makes a reservation of which nothing has been copied yet. -/
theorem advance_win (layout : Layout ring log passed gone) (hdata : Admissible ring.byteSize data)
    (hroom : ring.producerPos.toNat + footprint data.length ≤
      ring.consumerPos.toNat + ring.byteSize.toNat)
    (hbound : framed log + footprint data.length < 2 ^ 64) :
    let ring' := { ring with producerPos := ring.producerPos + total data }
    let log' := log ++ [⟨data, flags, ring.producerPos, false⟩]
    Advance ring log passed gone none ring' log' (some log.length) ∧
      (Writing.copying ring.producerPos (ring.producerPos + headerSize) (payloadWords data)).Sound
        ring' log' data flags (some log.length) := by
  intro ring' log'
  obtain ⟨layout', hpos'⟩ := layout.reserve_data hdata flags hbound hroom
  have hle : ring.producerPos.toNat ≤ (ring.producerPos + total data).toNat := by
    rw [layout'.producer_eq, layout.producer_eq, List.length_append,
      ← start_append [_] (Nat.le_refl log.length)]
    exact Nat.mul_le_mul_left 8 (start_le_start (Nat.le_add_right _ _))
  refine ⟨⟨layout', rfl, ⟨none, Beside.reserve hle _, by simp⟩, Or.inr rfl⟩, ?_⟩
  have hsplit : payloadWords data = [] ++ payloadWords data := rfl
  exact .copying List.getElem?_concat_length hsplit hpos' (copied_nil _ _ _)

variable {k : Nat} {pos next : UInt64} {done rest : List UInt64} {word : UInt64}

/-- Storing the next word of the payload. -/
theorem advance_copy (layout : Layout ring log passed gone)
    (hk : log[k]? = some ⟨data, flags, pos, false⟩)
    (hsplit : payloadWords data = done ++ word :: rest)
    (hnext : next.toNat = 8 * (start log k + 1 + done.length)) (hcopied : Copied ring log k done) :
    Advance ring log passed gone (some k) (ring.store next word) log (some k) ∧
      (Writing.copying pos (next + 8) rest).Sound (ring.store next word) log data flags
        (some k) := by
  obtain ⟨layout', hcopied', hnext'⟩ := layout.copy hk rfl hsplit hnext hcopied
  have hnumber : next.toNat / 8 = start log k + (done.length + 1) := by omega
  have hbeside : Beside (some k) ring log (ring.store next word) log :=
    Beside.store_payload layout hk rfl (lt_wordsFor_of_split hsplit) hnumber
  refine ⟨⟨layout', rfl, ⟨some k, hbeside, fun _ h => h⟩, Or.inl rfl⟩, ?_⟩
  exact .copying hk (by simpa using hsplit) hnext' hcopied'

/-- Storing the header behind the whole payload. -/
theorem advance_complete (layout : Layout ring log passed gone)
    (hk : log[k]? = some ⟨data, flags, pos, false⟩)
    (hcopied : Copied ring log k (payloadWords data)) :
    let ring' := ring.store pos (committedHeader (UInt64.ofNat data.length))
    Advance ring log passed gone (some k) ring' (commitAt log k) (some k) ∧
      (sealed flags pos).Sound ring' (commitAt log k) data flags (some k) := by
  intro ring'
  have layout' := layout.commit hk rfl hcopied
  have hnumber : pos.toNat / 8 = start log k := by
    have hpos : pos.toNat = 8 * start log k := layout.pos_eq k _ hk
    omega
  have hbeside : Beside (some k) ring log ring' (commitAt log k) :=
    Beside.commit layout hk rfl hnumber
  exact ⟨⟨layout', rfl, ⟨some k, hbeside, fun _ h => h⟩, Or.inl rfl⟩,
    sound_sealed (getElem?_commitAt_self hk)⟩

end Requests

/-- A request of a writer in a sound stage leads to a sound stage. -/
theorem Step.advance {call : Call} {stage stage' : Writing}
    (step : Step ring.byteSize call.data call.flags stage request reply stage')
    (layout : Layout ring log passed gone)
    (sound : stage.Sound ring log call.data call.flags call.place)
    (hperform : ring.perform request = (reply, ring'))
    (hbound : framed (call.record log request reply).1 < 2 ^ 64) :
    Advance ring log passed gone call.place ring' (call.record log request reply).1
        (call.record log request reply).2 ∧
      stage'.Sound ring' (call.record log request reply).1 call.data call.flags
        (call.record log request reply).2 := by
  obtain ⟨data, flags, work, place⟩ := call
  cases step with
  -- reserving: looks at the two positions change nothing, and a swap wins or finds a new head
  | arrive head =>
    cases hperform
    cases sound with
    | arriving hdata => exact ⟨.of_load layout _, .measuring hdata (Nat.le_refl _)⟩
  | full tail hfull =>
    cases hperform
    cases sound with
    | measuring hdata hhead => exact ⟨.of_load layout _, .refused⟩
  | @measure more head tail hroom =>
    cases hperform
    cases sound with
    | measuring hdata hhead =>
      exact ⟨.of_load layout _, .claiming hdata (layout.room_of_not_full hdata hhead hroom)⟩
  | @win more head =>
    cases sound with
    | claiming hdata hroom =>
      simp only [perform] at hperform
      split at hperform
      · rename_i hhead
        subst hhead
        cases hperform
        simp only [Call.record, framed_concat] at hbound
        exact advance_win layout hdata hroom hbound
      · cases hperform
  | @lose more head current =>
    cases sound with
    | claiming hdata hroom =>
      simp only [perform] at hperform
      split at hperform
      · cases hperform
      · cases hperform
        refine ⟨.of_load layout _, ?_⟩
        cases more with
        | zero => exact .refused
        | succ more => exact .measuring hdata (Nat.le_refl _)
  -- the payload, and the header behind it
  | @copy pos next word rest =>
    cases hperform
    cases sound with
    | @copying k _ _ done _ hk hsplit hnext hcopied =>
      rw [record_copy layout rfl hk (o := 1 + done.length) (by omega) (by omega)]
      exact advance_copy layout hk hsplit hnext hcopied
  | @complete pos next =>
    cases hperform
    cases sound with
    | @copying k _ _ done _ hk hsplit hnext hcopied =>
      rw [record_complete rfl hk]
      rw [List.append_nil] at hsplit
      exact advance_complete layout hk (hsplit ▸ hcopied)
  -- complete: only the wakeup is left, which the layout does not know of
  | caughtUp =>
    cases hperform
    cases sound with
    | deciding hk => exact ⟨.of_load layout _, .signalling hk⟩
  | behind htail =>
    cases hperform
    cases sound with
    | deciding hk => exact ⟨.of_load layout _, .written hk⟩
  | signal =>
    cases hperform
    cases sound with
    | signalling hk =>
      exact ⟨⟨layout.setReady true, rfl, ⟨none, Beside.setReady ring log true, by simp⟩,
        Or.inl rfl⟩, .written hk⟩

end Writing

/-! ## The reader -/

namespace Reading

/-- What one request of the reader leads to. -/
structure Advance (ring : Ring) (log : List Reservation) (count : Nat) (ring' : Ring)
    (stage' : Reading) : Prop where
  layout : Layout ring' log (count + stage'.ahead) stage'.gone
  beside : Beside none ring log ring' log
  sound : stage'.Sound ring' log count

variable {count : Nat} {r : Reservation}

/-- A header that the reader finds is the one of the record that is next. -/
theorem exists_of_isCommitted (layout : Layout ring log count fun _ => False)
    (hheader : isCommitted (ring.word ring.consumerPos) = true) :
    ∃ r, log[count]? = some r ∧ r.committed = true ∧ ring.word ring.consumerPos = r.header := by
  have hword := layout.word_consumerPos not_false
  cases hk : log[count]? with
  | none =>
    rw [hword, hk] at hheader
    cases hheader
  | some r =>
    rw [hk] at hword
    simp only at hword
    cases hcommitted : r.committed with
    | false =>
      rw [hcommitted, if_neg Bool.false_ne_true] at hword
      rw [hword, isCommitted_zero] at hheader
      cases hheader
    | true =>
      rw [hcommitted, if_pos rfl] at hword
      exact ⟨r, rfl, hcommitted, hword⟩

/-- A header that the reader does not find is not there: the record that is next is not complete,
if there is one at all. -/
theorem pending_of_not_isCommitted (layout : Layout ring log count fun _ => False)
    (hheader : isCommitted (ring.word ring.consumerPos) = false) (hk : log[count]? = some r) :
    r.committed = false := by
  have hword := layout.word_consumerPos not_false
  rw [hk] at hword
  simp only at hword
  cases hcommitted : r.committed with
  | false => rfl
  | true =>
    rw [hcommitted, if_pos rfl] at hword
    rw [hword, Reservation.header, isCommitted_committedHeader] at hheader
    cases hheader

theorem Advance.of_load {stage' : Reading} (layout : Layout ring log count fun _ => False)
    (hahead : stage'.ahead = 0) (hgone : stage'.gone = fun _ => False)
    (sound : stage'.Sound ring log count) : Advance ring log count ring stage' :=
  ⟨by rw [hahead, hgone]; exact layout, Beside.refl ring log, sound⟩

/-- Finding a header is the first step of taking the record. -/
theorem Advance.of_found (layout : Layout ring log count fun _ => False)
    (hheader : isCommitted (ring.word ring.consumerPos) = true) :
    Advance ring log count ring (found ring.consumerPos (ring.word ring.consumerPos)) := by
  obtain ⟨r, hk, hcommitted, hword⟩ := exists_of_isCommitted layout hheader
  have hvalid := layout.valid r (List.mem_of_getElem? hk)
  have hfuel : (payloadWords r.data).length <
      (recordLength (r.header &&& lengthMask) / 8).toNat := by
    rw [hvalid.header_and_lengthMask]
    exact length_payloadWords_lt hvalid
  rw [found, hword]
  exact ⟨layout.congr_gone fun o => by simp [gone]; omega, Beside.refl ring log,
    .taking hk hcommitted rfl (layout.toNat_first hk) hfuel⟩

theorem toNat_stop {gone : Nat → Prop} (layout : Layout ring log count gone)
    (hk : log[count]? = some r) :
    (stop ring.consumerPos r.header).toNat = 8 * (start log count + r.words) := by
  have hvalid := layout.valid r (List.mem_of_getElem? hk)
  rw [stop, hvalid.header_and_lengthMask, ← total, layout.toNat_end hk, layout.consumer_eq]
  omega

/-- What has been taken is the payload that was meant. -/
theorem payload_eq (hvalid : r.Valid) {taken : List UInt64}
    (hsplit : payloadWords r.data = taken.reverse) : payload r.header taken = r.data := by
  rw [payload, hvalid.header_and_lengthMask, toNat_ofNat_length hvalid.length_le, ← hsplit]
  exact take_octets_payloadWords r.data

section Requests

variable {tail header pos word : UInt64} {fuel : Nat} {taken : List UInt64}

/-- In front of the end there is a word of the payload left to load. -/
theorem advance_load (layout : Layout ring log count fun o => 0 < o ∧ o ≤ taken.length)
    (sound : (taking tail header (fuel + 1) pos taken).Sound ring log count)
    (hpos : pos < stop tail header) :
    Advance ring log count ring (clearing tail header fuel pos (ring.word pos) taken) := by
  cases sound with
  | @taking r _ _ _ rest hk hcommitted hsplit hnext hfuel =>
    cases rest with
    | nil =>
      rw [List.append_nil] at hsplit
      exact absurd hpos (not_lt_stop_of_end hsplit (toNat_stop layout hk) hnext)
    | cons word rest =>
      have hword : ring.word pos = word := layout.word_next hk hcommitted hsplit hnext
      rw [hword]
      exact ⟨layout, Beside.refl ring log,
        .clearing hk hcommitted hsplit hnext (Nat.lt_of_succ_lt_succ hfuel)⟩

/-- A word that has been loaded is cleared behind the ones before it. -/
theorem advance_clear (layout : Layout ring log count fun o => 0 < o ∧ o ≤ taken.length)
    (sound : (clearing tail header fuel pos word taken).Sound ring log count) :
    Advance ring log count (ring.store pos 0)
      (taking tail header fuel (pos + 8) (word :: taken)) := by
  cases sound with
  | @clearing r _ _ _ _ rest hk hcommitted hsplit hpos hfuel =>
    obtain ⟨layout', hpos'⟩ := layout.clear_next hk hcommitted hsplit hpos
    exact ⟨layout', Beside.clear layout hk hcommitted (lt_words_of_rest hsplit) (by omega),
      .taking hk hcommitted (by simpa using hsplit) hpos' hfuel⟩

/-- The header is cleared last, when no word of the payload is left. -/
theorem advance_erase (layout : Layout ring log count fun o => 0 < o ∧ o ≤ taken.length)
    (sound : (taking tail header fuel pos taken).Sound ring log count)
    (hend : fuel = 0 ∨ ¬ pos < stop tail header) :
    Advance ring log count (ring.store tail 0) (passing tail header taken) := by
  cases sound with
  | @taking r _ _ _ rest hk hcommitted hsplit hnext hfuel =>
    cases rest with
    | cons word rest =>
      have hpos := lt_stop_of_rest hsplit (toNat_stop layout hk) hnext
      -- neither the attempts nor the record are at an end while words are left
      rcases hend with rfl | hend
      · exact absurd hfuel (Nat.not_lt_zero _)
      · exact absurd hpos hend
    | nil =>
      have hnumber : ring.consumerPos.toNat / 8 = start log count + 0 := by
        have := layout.consumer_eq
        omega
      have layout' := layout.clear hk hcommitted r.words_pos hnumber
      refine ⟨layout'.congr_gone fun o => ?_,
        Beside.clear layout hk hcommitted r.words_pos hnumber,
        .passing hk hcommitted (by simpa using hsplit)⟩
      simp only [gone]
      omega

/-- A record of which nothing is left is passed. -/
theorem advance_pass (layout : Layout ring log count fun o => o ≤ taken.length)
    (sound : (passing tail header taken).Sound ring log count) :
    Advance ring log count { ring with consumerPos := stop tail header }
      (returning (some (payload header taken))) := by
  cases sound with
  | @passing r _ hk hcommitted hsplit =>
    have hwords := eq_words_of_end hsplit
    have hstop := toNat_stop layout hk
    have hconsumer := layout.consumer_eq
    have hend : (stop ring.consumerPos r.header).toNat =
        ring.consumerPos.toNat + 8 * r.words := by omega
    have layout' := layout.pass hk hcommitted (fun o ho => by omega) hend
    rw [payload_eq (layout.valid r (List.mem_of_getElem? hk)) hsplit]
    exact ⟨layout', Beside.pass log (by omega), .returning hk hcommitted⟩

end Requests

/-- A request of the reader in a sound stage leads to a sound stage. -/
theorem Step.advance {stage stage' : Reading} (step : Step stage request reply stage')
    (layout : Layout ring log (count + stage.ahead) stage.gone)
    (sound : stage.Sound ring log count) (hperform : ring.perform request = (reply, ring')) :
    Advance ring log count ring' stage' := by
  cases step with
  -- up to a header: nothing is taken yet, and the only thing that changes is readiness
  | locate tail =>
    cases hperform
    exact .of_load layout rfl rfl .looking
  | find header hheader =>
    cases hperform
    cases sound
    exact .of_found layout hheader
  | miss header hheader =>
    cases hperform
    cases sound
    exact .of_load layout rfl rfl .resetting
  | reset =>
    cases hperform
    cases sound
    exact ⟨layout.setReady false, Beside.setReady ring log false, .lookingAgain⟩
  | findAgain header hheader =>
    cases hperform
    cases sound
    exact .of_found layout hheader
  | missAgain header hheader =>
    cases hperform
    cases sound
    exact .of_load layout rfl rfl .returningNone
  -- behind a header: its record is taken apart and passed
  | load word hpos =>
    cases hperform
    exact advance_load layout sound hpos
  | clear =>
    cases hperform
    exact advance_clear layout sound
  | erase hend =>
    cases hperform
    exact advance_erase layout sound hend
  | pass =>
    cases hperform
    exact advance_pass layout sound

end Reading

end PortKnock.Ring
