import PortKnock.Proofs.Knock
import PortKnock.Proofs.Ring.Delivery

/-!
# Knocks as records

Every list of eight octets is the record of exactly one knock
(`decode?_eq_some_iff`), and `Spells` says of which one, octet by octet: in
words of its own, so that two conversions the wrong way round cannot make up for
each other.

A writer that publishes a knock hands its record to the ring.  However the calls
of all writers and the reader interleave, the payload that a call was made with
stays what it is until the reader hands it out (`data_run`), and so does the
knock (`Ring.Traffic.record_of_publish`).
-/

namespace PortKnock

open Octets

namespace Knock

variable {record : List UInt8} {knock : Knock}

/-! ## Eight octets -/

/-- A record spells a knock: the address comes first, its least significant octet in front; port and
filling follow as they stand on the wire. -/
structure Spells (record : List UInt8) (knock : Knock) : Prop where
  length_eq : record.length = recordSize
  source_eq : knock.source.toNat =
    2 ^ 24 * (octetAt record 3).toNat + 2 ^ 16 * (octetAt record 2).toNat +
      2 ^ 8 * (octetAt record 1).toNat + (octetAt record 0).toNat
  /-- The octets that dotted decimal shows. -/
  dotted_eq : ofNatBE 4 knock.source.toNat =
    [octetAt record 3, octetAt record 2, octetAt record 1, octetAt record 0]
  port_eq : knock.port.toNat = 2 ^ 8 * (octetAt record 4).toNat + (octetAt record 5).toNat
  reserved_eq : knock.reserved.toNat = 2 ^ 8 * (octetAt record 6).toNat + (octetAt record 7).toNat

theorem encode_of_decode? (hdecode : decode? record = some knock) : knock.encode = record := by
  unfold decode? at hdecode
  split at hdecode
  · rename_i a b c d p q r s
    cases hdecode
    have hsource : ofNatLE 4 (UInt32.ofNat (toNatLE [a, b, c, d])).toNat = [a, b, c, d] := by
      rw [toNat_ofNat_toNatLE]
      exact ofNatLE_toNatLE [a, b, c, d]
    have hnumber (p q : UInt8) : ofNatBE 2 (UInt16.ofNat (toNatBE [p, q])).toNat = [p, q] := by
      rw [toNat_ofNat_toNatBE]
      exact ofNatBE_toNatBE [p, q]
    rw [encode, portOctets, reservedOctets, hsource, hnumber, hnumber]
    rfl
  · cases hdecode

/-- A record is one of the knock that it is made of, and of no other. -/
theorem decode?_eq_some_iff : decode? record = some knock ↔ record = knock.encode := by
  constructor
  · intro hdecode
    exact (encode_of_decode? hdecode).symm
  · rintro rfl
    exact decode?_encode knock

theorem spells_of_decode? (hdecode : decode? record = some knock) : Spells record knock := by
  unfold decode? at hdecode
  split at hdecode
  · rename_i a b c d p q r s
    cases hdecode
    have hnumber (p q : UInt8) :
        (UInt16.ofNat (toNatBE [p, q])).toNat = 2 ^ 8 * p.toNat + q.toNat :=
      (toNat_ofNat_toNatBE p q).trans (toNatBE_pair p q)
    constructor
    case length_eq => rfl
    case source_eq =>
      rw [toNat_ofNat_toNatLE]
      show toNatLE [a, b, c, d] =
        2 ^ 24 * d.toNat + 2 ^ 16 * c.toNat + 2 ^ 8 * b.toNat + a.toNat
      simp only [toNatLE]
      omega
    case dotted_eq => exact ofNatBE_ofNat_toNatLE a b c d
    case port_eq => exact hnumber p q
    case reserved_eq => exact hnumber r s
  · cases hdecode

end Knock

namespace Ring

theorem getElem?_of_prefix {α : Type} {part whole : List α} (hpart : part <+: whole) {k : Nat}
    {element : α} (hk : part[k]? = some element) : whole[k]? = some element := by
  obtain ⟨rest, rfl⟩ := hpart
  rw [List.getElem?_append_left (List.getElem?_eq_some_iff.mp hk).1, hk]

/-- The reservation of a call is one for the payload of the call. -/
theorem Call.Sound.exists_getElem? {ring : Ring} {log : List Reservation} {call : Call} {k : Nat}
    (sound : call.Sound ring log) (hplace : call.place = some k) :
    ∃ r, log[k]? = some r ∧ r.data = call.data := by
  obtain ⟨stage, _, sound⟩ := sound
  rw [hplace] at sound
  cases sound with
  | copying hk | deciding hk | signalling hk | written hk => exact ⟨_, hk, rfl⟩

namespace Traffic

variable {ι : Type} [DecidableEq ι] {s s' : Traffic ι} {i : ι}

/-! ## What a call was made with -/

/-- Until it returns, a call keeps its payload. -/
theorem data_step {move : Move ι} {call : Call} (hcall : s.calls i = some call)
    (hstep : s.step move = some s') (hmove : move ≠ .leave i) :
    ∃ call', s'.calls i = some call' ∧ call'.data = call.data := by
  cases move with
  | enter j data flags =>
    -- whoever is in a call cannot make another one
    obtain ⟨hnone, rfl⟩ := step_enter hstep
    have hij : i ≠ j := by
      rintro rfl
      rw [hcall] at hnone
      cases hnone
    exact ⟨call, by rw [← hcall]; exact Function.update_of_ne hij _ _, rfl⟩
  | act j =>
    obtain ⟨call', request, next, hcall', _, rfl⟩ := step_act hstep
    by_cases hij : i = j
    · subst hij
      rw [hcall, Option.some.injEq] at hcall'
      subst hcall'
      exact ⟨_, Function.update_self .., rfl⟩
    · exact ⟨call, by rw [← hcall]; exact Function.update_of_ne hij _ _, rfl⟩
  | leave j =>
    obtain ⟨_, _, _, _, rfl⟩ := step_leave hstep
    have hij : i ≠ j := by
      rintro rfl
      exact hmove rfl
    exact ⟨call, by rw [← hcall]; exact Function.update_of_ne hij _ _, rfl⟩
  | next =>
    obtain ⟨_, rfl⟩ := step_next hstep
    exact ⟨call, hcall, rfl⟩
  | read =>
    obtain ⟨_, _, _, rfl⟩ := step_read hstep
    exact ⟨call, hcall, rfl⟩
  | deliver =>
    obtain ⟨_, _, rfl⟩ := step_deliver hstep
    exact ⟨call, hcall, rfl⟩

theorem data_run {moves : List (Move ι)} {call : Call} (hcall : s.calls i = some call)
    (hrun : s.run moves = some s') (hmoves : .leave i ∉ moves) :
    ∃ call', s'.calls i = some call' ∧ call'.data = call.data := by
  induction moves generalizing s call with
  | nil =>
    cases hrun
    exact ⟨call, hcall, rfl⟩
  | cons move moves ih =>
    obtain ⟨t, hstep, hrun'⟩ := (run_cons move moves).mp hrun
    rw [List.mem_cons, not_or] at hmoves
    obtain ⟨call', hcall', hdata'⟩ := data_step hcall hstep (Ne.symm hmoves.1)
    obtain ⟨call'', hcall'', hdata''⟩ := ih hcall' hrun' hmoves.2
    exact ⟨call'', hcall'', hdata''.trans hdata'⟩

/-! ## What was reserved for -/

/-- Reservations keep their payloads, whatever else happens. -/
theorem data_prefix_step {move : Move ι} (hstep : s.step move = some s') :
    s.log.map Reservation.data <+: s'.log.map Reservation.data := by
  rcases log_of_step hstep with hsame | ⟨call, request, hnoted⟩
  · exact ⟨[], by rw [hsame, List.append_nil]⟩
  · rw [hnoted]
    rcases call.record_eq s.log request (s.ring.perform request).1 with hlog | ⟨r, hlog⟩ | ⟨k, hlog⟩
    · exact ⟨[], by rw [hlog, List.append_nil]⟩
    · rw [hlog, List.map_append]
      exact List.prefix_append _ _
    · -- completing a record changes its header and not its payload
      exact ⟨[], by rw [hlog, map_data_commitAt, List.append_nil]⟩

theorem data_prefix_run {moves : List (Move ι)} (hrun : s.run moves = some s') :
    s.log.map Reservation.data <+: s'.log.map Reservation.data := by
  induction moves generalizing s with
  | nil =>
    cases hrun
    exact List.prefix_rfl
  | cons move moves ih =>
    obtain ⟨t, hstep, hrun'⟩ := (run_cons move moves).mp hrun
    exact (data_prefix_step hstep).trans (ih hrun')

/-! ## Publishing -/

theorem run_append (moves moves' : List (Move ι)) :
    s.run (moves ++ moves') = some s' ↔ ∃ t, s.run moves = some t ∧ t.run moves' = some s' := by
  induction moves generalizing s with
  | nil => simp [run]
  | cons move moves ih =>
    simp only [List.cons_append, run_cons, ih]
    constructor
    · rintro ⟨u, hstep, t, hmoves, hmoves'⟩
      exact ⟨t, ⟨u, hstep, hmoves⟩, hmoves'⟩
    · rintro ⟨t, ⟨u, hstep, hmoves⟩, hmoves'⟩
      exact ⟨u, hstep, t, hmoves, hmoves'⟩

end Traffic

/-- Writer `i` publishes a knock: it makes the call of `output` that a ring as a sink makes. -/
def Move.publish {ι : Type} (i : ι) (knock : Knock) (flags : UInt64) : Move ι :=
  (recordSink (Move.enter i) : Sink fun _ => Move ι).publish knock flags

namespace Traffic

variable {ι : Type} [DecidableEq ι] {s t : Traffic ι} {i : ι} {knock : Knock} {flags : UInt64}

/-- To publish a knock is to use the ring as a sink. -/
theorem step_publish (hidle : s.calls i = none) :
    s.step (.publish i knock flags) = some { s with
      calls := Function.update s.calls i (some {
        data := knock.encode
        flags
        work := (sink s.ring.byteSize).publish knock flags }) } := by
  simp only [Move.publish, recordSink, step, hidle]
  rfl

/-- The record that a writer has won a reservation for is the one that the reader hands out when it
is its turn. -/
theorem record_of_publish {size : UInt64} {ring : Ring} (hmake : make size = .ok ring)
    {before middle after : List (Move ι)}
    (hpublish : (initial ι ring).run (before ++ .publish i knock flags :: middle) = some t)
    (hmiddle : .leave i ∉ middle) {call : Call} (hcall : t.calls i = some call) {k : Nat}
    (hplace : call.place = some k) (hafter : t.run after = some s) (hbound : framed s.log < 2 ^ 64)
    {record : List UInt8} (hrecord : s.delivered[k]? = some record) : record = knock.encode := by
  obtain ⟨u, _, hrest⟩ := (run_append before _).mp hpublish
  obtain ⟨u', hstep, hrun⟩ := (run_cons _ middle).mp hrest
  -- the call has been made with the record of the knock
  have hidle := (step_enter hstep).1
  rw [step_publish hidle, Option.some.injEq] at hstep
  subst hstep
  obtain ⟨call', hcall', hdata⟩ := data_run (i := i) (Function.update_self ..) hrun hmiddle
  rw [hcall, Option.some.injEq] at hcall'
  subst hcall'
  -- so it has reserved for it
  obtain ⟨reading, consistent⟩ :=
    run_consistent hmake hpublish (Nat.lt_of_le_of_lt (framed_le_run hafter) hbound)
  obtain ⟨r, hk, hreserved⟩ := (consistent.writers i call hcall).exists_getElem? hplace
  -- and what comes out is what was reserved for
  obtain ⟨reading', consistent'⟩ :=
    run_consistent hmake ((run_append _ after).mpr ⟨t, hpublish, hafter⟩) hbound
  have hpayload : (t.log.map Reservation.data)[k]? = some knock.encode := by
    rw [List.getElem?_map, hk, Option.map_some, hreserved, hdata]
  have hlater := getElem?_of_prefix (data_prefix_run hafter) hpayload
  have hhanded := getElem?_of_prefix consistent'.delivered hrecord
  rw [hlater, Option.some.injEq] at hhanded
  exact hhanded.symm

end Traffic

end Ring

namespace Knock

open PortKnock.Ring

variable {ι : Type} [DecidableEq ι]

/-- A knock comes back from its record, filling included; exactly the lists of eight octets are
records, and each is the one of the knock that is read from it; and however the calls of writers and
the reader interleave, what the reader hands out for a knock that was published is read as this
knock, its address in reverse order and its port as they stand in the record. -/
theorem comes_back :
    (∀ knock : Knock, decode? knock.encode = some knock) ∧
      (∀ record, ((decode? record).isSome = true ↔ record.length = 8) ∧
        ∀ knock, decode? record = some knock → knock.encode = record) ∧
      ∀ (size : UInt64) (ring : Ring), make size = .ok ring →
        ∀ (before middle after : List (Move ι)) (i : ι) (knock : Knock) (flags : UInt64)
          (t s : Traffic ι) (call : Call) (k : Nat) (record : List UInt8),
          (Traffic.initial ι ring).run (before ++ .publish i knock flags :: middle) = some t →
          .leave i ∉ middle → t.calls i = some call → call.place = some k →
          t.run after = some s → framed s.log < 2 ^ 64 → s.delivered[k]? = some record →
            decode? record = some knock ∧ Spells record knock := by
  refine ⟨decode?_encode, fun record => ⟨decode?_isSome_iff, fun knock => encode_of_decode?⟩, ?_⟩
  intro size ring hmake before middle after i knock flags t s call k record hpublish hmiddle hcall
    hplace hafter hbound hrecord
  have hdecode : decode? record = some knock :=
    decode?_eq_some_iff.mpr
      (Traffic.record_of_publish hmake hpublish hmiddle hcall hplace hafter hbound hrecord)
  exact ⟨hdecode, spells_of_decode? hdecode⟩

/-- A knock of which no two octets are the same, published while another writer, which has reserved
first, is still copying. -/
theorem comes_back_behind_another :
    ∃ ring t call s, make 64 = .ok ring ∧
      (Traffic.initial Bool ring).run
        ([.enter true [1] 0, .act true, .act true, .act true] ++
          .publish false ⟨0x01020304, 0x0506, 0x0708⟩ 2 :: List.replicate 6 (.act false)) =
        some t ∧
      t.calls false = some call ∧ call.place = some 1 ∧
      t.run ([.act true, .act true, .leave false] ++
        .next :: List.replicate 6 .read ++ .deliver :: .next :: List.replicate 6 .read ++
          [.deliver]) = some s ∧
      s.delivered = [[1], [4, 3, 2, 1, 5, 6, 7, 8]] ∧
      decode? [4, 3, 2, 1, 5, 6, 7, 8] = some ⟨0x01020304, 0x0506, 0x0708⟩ := by
  let ring : Ring := { words := Array.replicate 8 0, byteSize := 64 }
  have hmake : make 64 = .ok ring := rfl
  let before : List (Move Bool) := [.enter true [1] 0, .act true, .act true, .act true]
  let middle : List (Move Bool) := List.replicate 6 (.act false)
  let after : List (Move Bool) := [.act true, .act true, .leave false] ++
    .next :: List.replicate 6 .read ++ .deliver :: .next :: List.replicate 6 .read ++ [.deliver]
  let knock : Knock := ⟨0x01020304, 0x0506, 0x0708⟩
  have hplaced : ((Traffic.initial Bool ring).run (before ++ .publish false knock 2 :: middle)).bind
      (fun t => (t.calls false).bind Call.place) = some 1 := by
    decide +kernel
  have hseen : ((Traffic.initial Bool ring).run
      ((before ++ .publish false knock 2 :: middle) ++ after)).map
        (fun s => (s.delivered, framed s.log)) = some ([[1], [4, 3, 2, 1, 5, 6, 7, 8]], 32) := by
    decide +kernel
  obtain ⟨t, hpublish, hcalls⟩ := Option.bind_eq_some_iff.mp hplaced
  obtain ⟨call, hcall, hplace⟩ := Option.bind_eq_some_iff.mp hcalls
  obtain ⟨s, hrun, hs⟩ := Option.map_eq_some_iff.mp hseen
  obtain ⟨hdelivered, hframed⟩ := Prod.mk.inj hs
  obtain ⟨t', hpublish', hafter⟩ := (Traffic.run_append _ after).mp hrun
  rw [hpublish, Option.some.injEq] at hpublish'
  subst hpublish'
  have hback := comes_back.2.2 64 ring hmake before middle after false knock 2 t s call 1 _ hpublish
    (by decide) hcall hplace hafter (by rw [hframed]; decide) (by rw [hdelivered]; rfl)
  exact ⟨ring, t, call, s, hmake, hpublish, hcall, hplace, hafter, hdelivered, hback.1⟩

end Knock

end PortKnock
