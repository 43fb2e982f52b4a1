import Mathlib.Data.List.Basic
import Mathlib.Data.List.Induction
import Mathlib.Data.Nat.Digits.Defs
import PortKnock.Proofs.Receiver

/-!
# Where batches end

A batch is the lines of a group of knocks that follow each other, so it never
ends inside a line.  `Divided` says which knocks the batches and the buffer are
made of, and that every group has stayed below the size of a full batch up to
its last line: this is kept by whatever the receiver does.  Only a tick or the
end makes a batch that is not full (`Divided.take`).

Together with the length of the longest line this bounds batches and buffer.
-/

namespace PortKnock

/-! ## Lengths of lines -/

theorem utf8ByteSize_ofList_of_isDigit (digits : List Char)
    (hdigits : ∀ digit ∈ digits, digit.isDigit = true) :
    (String.ofList digits).utf8ByteSize = digits.length := by
  induction digits with
  | nil => rfl
  | cons digit digits ih =>
    have hdigit : digit.utf8Size = 1 := by
      have hrange := hdigits digit List.mem_cons_self
      rw [Char.isDigit, Bool.and_eq_true, decide_eq_true_eq, decide_eq_true_eq] at hrange
      exact Char.utf8Size_eq_one_iff.mpr (UInt32.le_trans hrange.2 (by decide))
    have hrest := ih fun digit hmem => hdigits digit (List.mem_cons_of_mem _ hmem)
    rw [← List.singleton_append, String.ofList_append, String.utf8ByteSize_append, hrest,
      ← String.singleton_eq_ofList, String.utf8ByteSize_singleton, hdigit, List.length_append,
      List.length_singleton]

/-- A number takes as many octets as it has digits. -/
theorem utf8ByteSize_toString_le {number count : Nat} (hcount : 0 < count)
    (hnumber : number < 10 ^ count) : (toString number).utf8ByteSize ≤ count := by
  show (Nat.repr number).utf8ByteSize ≤ count
  rw [Nat.repr, utf8ByteSize_ofList_of_isDigit _ fun digit hmem =>
    Nat.isDigit_of_mem_toDigits (by decide) (by decide) hmem]
  exact Nat.toDigits_length 10 number count hcount hnumber

namespace Knock

/-- Octets of the longest line. -/
def longestLine : Nat := 22

theorem utf8ByteSize_dotted_le (address : UInt32) : (Ipv4.dotted address).utf8ByteSize ≤ 15 := by
  have hoctet (octet : UInt8) : (toString octet.toNat).utf8ByteSize ≤ 3 :=
    utf8ByteSize_toString_le (by decide) (Nat.lt_trans octet.toNat_lt (by decide))
  obtain ⟨a, b, c, d, hoctets⟩ := List.length_eq_four.mp (Octets.length_ofNatBE 4 address.toNat)
  have ha := hoctet a
  have hb := hoctet b
  have hc := hoctet c
  have hd := hoctet d
  have hdot : ".".utf8ByteSize = 1 := rfl
  rw [Ipv4.dotted, hoctets]
  show (toString a.toNat ++ "." ++ toString b.toNat ++ "." ++ toString c.toNat ++ "." ++
    toString d.toNat).utf8ByteSize ≤ 15
  simp only [String.utf8ByteSize_append, hdot]
  omega

theorem utf8ByteSize_line_le (knock : Knock) : knock.line.utf8ByteSize ≤ longestLine := by
  have haddress := utf8ByteSize_dotted_le knock.source
  have hport : (toString knock.port.toNat).utf8ByteSize ≤ 5 :=
    utf8ByteSize_toString_le (by decide) (Nat.lt_trans knock.port.toNat_lt (by decide))
  have hcomma : ",".utf8ByteSize = 1 := rfl
  have hnewline : "\n".utf8ByteSize = 1 := rfl
  rw [line, longestLine]
  simp only [String.utf8ByteSize_append, hcomma, hnewline]
  omega

example : (⟨0xffffffff, 0xffff, 0⟩ : Knock).line.utf8ByteSize = longestLine := by decide +kernel

theorem utf8ByteSize_line_pos (knock : Knock) : 0 < knock.line.utf8ByteSize := by
  have hnewline : "\n".utf8ByteSize = 1 := rfl
  rw [line]
  simp only [String.utf8ByteSize_append, hnewline]
  omega

theorem lines_concat (knocks : List Knock) (knock : Knock) :
    lines (knocks ++ [knock]) = lines knocks ++ knock.line := by
  rw [lines, List.foldl_append]
  rfl

theorem utf8ByteSize_lines (knocks : List Knock) :
    (lines knocks).utf8ByteSize = (knocks.map fun knock => knock.line.utf8ByteSize).sum := by
  induction knocks using List.reverseRecOn with
  | nil => rfl
  | append_singleton knocks knock ih =>
    rw [lines_concat, String.utf8ByteSize_append, ih, List.map_append, List.sum_append_nat,
      List.map_singleton, List.sum_singleton]

/-- Knocks that there are have a text, and so do only they. -/
theorem lines_eq_empty_iff {knocks : List Knock} : lines knocks = "" ↔ knocks = [] := by
  constructor
  · intro hempty
    rcases knocks.eq_nil_or_concat with hnil | ⟨init, last, rfl⟩
    · exact hnil
    · have hpos := utf8ByteSize_line_pos last
      have hzero := congrArg String.utf8ByteSize hempty
      rw [List.concat_eq_append, lines_concat, String.utf8ByteSize_append,
        String.utf8ByteSize_empty] at hzero
      omega
  · rintro rfl
    rfl

theorem utf8ByteSize_lines_dropLast_le (knocks : List Knock) :
    (lines knocks.dropLast).utf8ByteSize ≤ (lines knocks).utf8ByteSize := by
  rcases knocks.eq_nil_or_concat with rfl | ⟨init, last, rfl⟩
  · exact Nat.le_refl _
  · rw [List.concat_eq_append, List.dropLast_concat, lines_concat, String.utf8ByteSize_append]
    exact Nat.le_add_right _ _

end Knock

namespace Receiver

/-! ## Groups of knocks -/

/-- Knocks that follow each other and whose lines filled no batch before the last one of them. -/
structure Fits (group : List Knock) : Prop where
  ne_nil : group ≠ []
  dropLast_lt : (Knock.lines group.dropLast).utf8ByteSize < batchSize

/-- Knocks whose lines fill a batch. -/
def Full (group : List Knock) : Prop :=
  batchSize ≤ (Knock.lines group).utf8ByteSize

theorem Fits.le {group : List Knock} (fits : Fits group) :
    (Knock.lines group).utf8ByteSize < batchSize + Knock.longestLine := by
  have hline := (group.getLast fits.ne_nil).utf8ByteSize_line_le
  have hinit := fits.dropLast_lt
  rw [← List.dropLast_concat_getLast fits.ne_nil, Knock.lines_concat, String.utf8ByteSize_append]
  omega

theorem fits_concat {knocks : List Knock}
    (hknocks : (Knock.lines knocks).utf8ByteSize < batchSize) (knock : Knock) :
    Fits (knocks ++ [knock]) := by
  refine ⟨List.concat_ne_nil knock knocks, ?_⟩
  rw [List.dropLast_concat]
  exact hknocks

/-- What the batches are made of, and what the buffer is. -/
structure Divided (receiver : Receiver) (groups : List (List Knock)) (rest : List Knock) :
    Prop where
  batches_eq : receiver.batches.toList = groups.map Knock.lines
  pending_eq : receiver.pending = Knock.lines rest
  fits : ∀ group ∈ groups, Fits group
  rest_lt : (Knock.lines rest).utf8ByteSize < batchSize

variable {receiver : Receiver} {groups : List (List Knock)} {rest : List Knock}

theorem divided_initial : Divided {} [] [] :=
  ⟨rfl, rfl, fun _ hmem => absurd hmem List.not_mem_nil, by decide⟩

/-- The group that a buffer makes when it is handed over; an empty one makes none. -/
def handed (rest : List Knock) : List (List Knock) :=
  if rest.isEmpty then [] else [rest]

theorem mem_handed {group : List Knock} : group ∈ handed rest ↔ rest ≠ [] ∧ group = rest := by
  cases rest <;> simp [handed]

/-- Groups of which the last one is what was in the buffer. -/
theorem mem_of_mem_dropLast_append_handed {group : List Knock}
    (hmem : group ∈ (groups ++ handed rest).dropLast) : group ∈ groups := by
  cases rest with
  | nil =>
    rw [handed, List.isEmpty_nil, if_pos rfl, List.append_nil] at hmem
    exact (List.dropLast_sublist _).mem hmem
  | cons first rest => rwa [handed, List.isEmpty_cons, if_neg (by decide), List.dropLast_concat]
      at hmem

theorem flatten_handed (rest : List Knock) : (handed rest).flatten = rest := by
  cases rest <;> simp [handed]

theorem batches_flush (hpending : receiver.pending = Knock.lines rest) :
    receiver.flush.batches.toList = receiver.batches.toList ++ (handed rest).map Knock.lines := by
  have hempty : receiver.pending.isEmpty = rest.isEmpty := by
    rw [Bool.eq_iff_iff, String.isEmpty_iff, List.isEmpty_iff, hpending, Knock.lines_eq_empty_iff]
  rw [flush, hempty, handed]
  split
  · exact (List.append_nil _).symm
  · rw [Array.toList_push, hpending]
    rfl

theorem Divided.groups_eq_nil_iff (divided : Divided receiver groups rest) :
    groups = [] ↔ groups.flatten = [] := by
  constructor
  · rintro rfl
    rfl
  · intro hflatten
    refine List.eq_nil_iff_forall_not_mem.mpr fun group hmem => ?_
    exact (divided.fits group hmem).ne_nil (List.flatten_eq_nil_iff.mp hflatten group hmem)

/-- A buffer that is handed over before it is full. -/
theorem Divided.flush (divided : Divided receiver groups rest) :
    Divided receiver.flush (groups ++ handed rest) [] where
  batches_eq := by
    rw [batches_flush divided.pending_eq, divided.batches_eq, List.map_append]
  pending_eq := pending_flush receiver
  fits := by
    intro group hmem
    rcases List.mem_append.mp hmem with hmem | hmem
    · exact divided.fits group hmem
    · obtain ⟨hrest, rfl⟩ := mem_handed.mp hmem
      exact ⟨hrest, Nat.lt_of_le_of_lt (Knock.utf8ByteSize_lines_dropLast_le _) divided.rest_lt⟩
  rest_lt := by decide

/-! ## What the receiver does -/

/-- The buffer once the line of a record is in it, before it is handed over if that fills it. -/
def filling (receiver : Receiver) (record : List UInt8) : String :=
  receiver.pending ++ ((Knock.decode? record).elim "" Knock.line)

theorem take_eq_flushFull (receiver : Receiver) {record : List UInt8} {knock : Knock}
    (hdecode : Knock.decode? record = some knock) :
    ∃ receiver' : Receiver, receiver.take record = receiver'.flushFull ∧
      receiver'.pending = receiver.filling record ∧ receiver'.batches = receiver.batches := by
  rw [take, filling, hdecode]
  exact ⟨_, rfl, rfl, rfl⟩

theorem Divided.filling_lt (divided : Divided receiver groups rest) (record : List UInt8) :
    (receiver.filling record).utf8ByteSize < batchSize + Knock.longestLine := by
  have hrest := divided.rest_lt
  rw [filling, divided.pending_eq, String.utf8ByteSize_append]
  cases Knock.decode? record with
  | none =>
    rw [Option.elim_none, String.utf8ByteSize_empty]
    omega
  | some knock =>
    have hline := knock.utf8ByteSize_line_le
    rw [Option.elim_some]
    omega

/-- A record that is no knock changes neither batches nor buffer. -/
theorem Divided.take_stray (divided : Divided receiver groups rest) {record : List UInt8}
    (hdecode : Knock.decode? record = none) : Divided (receiver.take record) groups rest := by
  rw [take, hdecode]
  exact ⟨divided.batches_eq, divided.pending_eq, divided.fits, divided.rest_lt⟩

/-- A knock ends its group if it makes it full, and waits otherwise. -/
theorem Divided.take_knock (divided : Divided receiver groups rest) {record : List UInt8}
    {knock : Knock} (hdecode : Knock.decode? record = some knock) :
    (Full (rest ++ [knock]) ∧
        Divided (receiver.take record) (groups ++ [rest ++ [knock]]) []) ∨
      Divided (receiver.take record) groups (rest ++ [knock]) := by
  obtain ⟨receiver', htake, hpending, hbatches⟩ := take_eq_flushFull receiver hdecode
  have hlines : receiver'.pending = Knock.lines (rest ++ [knock]) := by
    rw [hpending, filling, divided.pending_eq, hdecode, Option.elim_some, Knock.lines_concat]
  rw [flushFull, hlines] at htake
  by_cases hfull : Full (rest ++ [knock])
  · have hgroup : handed (rest ++ [knock]) = [rest ++ [knock]] := by simp [handed]
    rw [htake.trans (if_pos hfull)]
    refine Or.inl ⟨hfull, ?_, pending_flush _, ?_, by decide⟩
    · rw [batches_flush hlines, hbatches, divided.batches_eq, hgroup, List.map_append]
    · intro group hmem
      rcases List.mem_append.mp hmem with hmem | hmem
      · exact divided.fits group hmem
      · rw [List.mem_singleton.mp hmem]
        exact fits_concat divided.rest_lt knock
  · rw [htake.trans (if_neg hfull)]
    refine Or.inr ⟨?_, hlines, divided.fits, Nat.lt_of_not_le hfull⟩
    rw [hbatches, divided.batches_eq]

/-- In a drain, batches are handed over because they are full and for no other reason. -/
theorem Divided.drain (divided : Divided receiver groups rest) (records : List (List UInt8)) :
    ∃ new rest', Divided (receiver.drain records) (groups ++ new) rest' ∧
      new.flatten ++ rest' = rest ++ knocks records ∧ ∀ group ∈ new, Full group := by
  induction records generalizing receiver groups rest with
  | nil => exact ⟨[], rest, by rwa [List.append_nil], by simp [knocks], by simp⟩
  | cons record records ih =>
    cases hdecode : Knock.decode? record with
    | none =>
      obtain ⟨new, rest', hdivided, hflatten, hfull⟩ := ih (divided.take_stray hdecode)
      refine ⟨new, rest', hdivided, ?_, hfull⟩
      rw [hflatten, knocks, knocks, List.filterMap_cons_none hdecode]
    | some knock =>
      have hknocks : knocks (record :: records) = knock :: knocks records :=
        List.filterMap_cons_some hdecode
      rcases divided.take_knock hdecode with ⟨hfirst, hdivided⟩ | hdivided
      · obtain ⟨new, rest', hdivided', hflatten, hfull⟩ := ih hdivided
        rw [List.append_assoc] at hdivided'
        refine ⟨(rest ++ [knock]) :: new, rest', hdivided', ?_, ?_⟩
        · rw [List.flatten_cons, List.append_assoc, hflatten, hknocks, List.nil_append,
            List.append_assoc, List.singleton_append]
        · intro group hmem
          rcases List.mem_cons.mp hmem with rfl | hmem
          · exact hfirst
          · exact hfull group hmem
      · obtain ⟨new, rest', hdivided', hflatten, hfull⟩ := ih hdivided
        refine ⟨new, rest', hdivided', ?_, hfull⟩
        rw [hflatten, hknocks, List.append_assoc, List.singleton_append]

theorem Divided.finish (divided : Divided receiver groups rest) (records : List (List UInt8)) :
    ∃ new rest', Divided (receiver.finish records) (groups ++ new ++ handed rest') [] ∧
      new.flatten ++ rest' = rest ++ knocks records ∧ ∀ group ∈ new, Full group := by
  obtain ⟨new, rest', hdivided, hrest⟩ := divided.drain records
  have hflush := hdivided.flush
  exact ⟨new, rest', ⟨hflush.batches_eq, hflush.pending_eq, hflush.fits, hflush.rest_lt⟩, hrest⟩

/-- As long as the clock does not tick, it makes no difference how records are split. -/
theorem run_map_records (portions : List (List (List UInt8))) (remaining : List (List UInt8)) :
    run (portions.map .records) remaining = run [] (portions.flatten ++ remaining) := by
  have hwakeups : (portions.map Wakeup.records).foldl wake {} = drain {} portions.flatten := by
    rw [List.foldl_map, drain, List.foldl_flatten]
    rfl
  rw [run, run, hwakeups, finish, finish, drain, drain, drain, List.foldl_append, List.foldl_nil]

theorem decode?_eq_none_iff {record : List UInt8} :
    Knock.decode? record = none ↔ record.length ≠ 8 := by
  rw [← Option.not_isSome_iff_eq_none, isSome_decode?_eq, decide_eq_true_eq]

theorem knocks_eq_nil_iff {records : List (List UInt8)} :
    knocks records = [] ↔ ∀ record ∈ records, record.length ≠ 8 := by
  rw [knocks, List.filterMap_eq_nil_iff]
  exact forall₂_congr fun record _ => decode?_eq_none_iff

/-- As long as the clock does not tick, every batch is the lines of knocks that follow each other.
It is full, unless it is the last one, and was not full before its last line; so it is never longer
than a full batch and one line less an octet, and neither is the buffer at any time. -/
theorem batches_of_drains (portions : List (List (List UInt8))) (remaining : List (List UInt8)) :
    (∃ groups : List (List Knock),
      (run (portions.map .records) remaining).batches.toList = groups.map Knock.lines ∧
      groups.flatten = (portions.flatten ++ remaining).filterMap Knock.decode? ∧
      (∀ group ∈ groups, Knock.lines group ≠ "" ∧
        (Knock.lines group.dropLast).utf8ByteSize < 65536 ∧
        (Knock.lines group).utf8ByteSize ≤ 65557) ∧
      (∀ group ∈ groups.dropLast, 65536 ≤ (Knock.lines group).utf8ByteSize) ∧
      ((run (portions.map .records) remaining).batches = #[] ↔
        ∀ record ∈ portions.flatten ++ remaining, record.length ≠ 8)) ∧
    ∀ taken record, ((drain {} taken).filling record).utf8ByteSize ≤ 65557 := by
  constructor
  · obtain ⟨new, rest, hdivided, hflatten, hfull⟩ :=
      divided_initial.finish (portions.flatten ++ remaining)
    rw [List.nil_append] at hdivided hflatten
    have hknocks : (new ++ handed rest).flatten = knocks (portions.flatten ++ remaining) := by
      rw [List.flatten_append, flatten_handed, hflatten]
    have hbatches : (run (portions.map .records) remaining).batches.toList =
        (new ++ handed rest).map Knock.lines := by
      rw [run_map_records]
      exact hdivided.batches_eq
    refine ⟨new ++ handed rest, hbatches, hknocks, ?_, ?_, ?_⟩
    · intro group hmem
      have hfits := hdivided.fits group hmem
      exact ⟨fun hempty => hfits.ne_nil (Knock.lines_eq_empty_iff.mp hempty), hfits.dropLast_lt,
        Nat.le_of_lt_succ hfits.le⟩
    · intro group hmem
      exact hfull group (mem_of_mem_dropLast_append_handed hmem)
    · rw [← Array.toList_eq_nil_iff, hbatches, List.map_eq_nil_iff, hdivided.groups_eq_nil_iff,
        hknocks, knocks_eq_nil_iff]
  · intro taken record
    obtain ⟨new, rest, hdivided, -⟩ := divided_initial.drain taken
    exact Nat.le_of_lt_succ (hdivided.filling_lt record)

/-- Lines of the greatest length, and enough of them for a full batch and some more. -/
theorem batches_of_drains_of_longest_lines :
    let records := List.replicate 3000 [255, 255, 255, 255, 255, 255, 0, 0]
    ∃ first second rest, (run [] records).batches.toList = first :: second :: rest ∧
      65536 ≤ first.utf8ByteSize ∧ first.utf8ByteSize ≤ 65557 ∧ second ≠ "" := by
  intro records
  obtain ⟨⟨groups, hbatches, hflatten, hgroups, hfull, -⟩, -⟩ := batches_of_drains [] records
  have hknocks : groups.flatten = List.replicate 3000 ⟨0xffffffff, 0xffff, 0⟩ := by
    rw [hflatten, List.flatten_nil, List.nil_append, List.filterMap_replicate]
    rfl
  match groups with
  | [] => cases hknocks
  | [group] =>
    -- one batch could not hold all lines
    have hlines := (hgroups group (List.mem_singleton_self group)).2.2
    rw [List.flatten_singleton] at hknocks
    have hline : (⟨0xffffffff, 0xffff, 0⟩ : Knock).line.utf8ByteSize = 22 := by decide +kernel
    rw [hknocks, Knock.utf8ByteSize_lines, List.map_replicate, hline, List.sum_replicate_nat]
      at hlines
    omega
  | first :: second :: rest =>
    rw [List.map_nil, List.map_cons, List.map_cons] at hbatches
    refine ⟨_, _, _, hbatches, hfull first ?_, (hgroups first ?_).2.2, (hgroups second ?_).1⟩ <;>
      simp

end Receiver

end PortKnock
