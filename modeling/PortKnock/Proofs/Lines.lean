import Mathlib.Data.List.Forall2
import PortKnock.Proofs.Knock

/-!
# Lines can be read back

The numbers of a line have as many digits as they need, and lines are put behind
each other without any other mark than their ends.  Still a text says which
knocks it reports: digits end at the first character that is none
(`digits_append_inj`), so that one field after the other, and then one line
after the other, can be split off from the front of a text
(`line_append_inj`).
-/

namespace PortKnock

/-! ## Numbers in front of something else -/

/-- A run of elements with a property ends at the first element that does not have it. -/
theorem append_cons_inj_of_all {α : Type} {p : α → Bool} {run run' rest rest' : List α}
    {stop stop' : α} (hrun : ∀ a ∈ run, p a = true) (hrun' : ∀ a ∈ run', p a = true)
    (hstop : p stop = false) (hstop' : p stop' = false)
    (heq : run ++ stop :: rest = run' ++ stop' :: rest') :
    run = run' ∧ stop :: rest = stop' :: rest' := by
  have htake : ∀ {run rest : List α} {stop : α}, (∀ a ∈ run, p a = true) → p stop = false →
      (run ++ stop :: rest).takeWhile p = run := by
    intro run rest stop hrun hstop
    rw [List.takeWhile_append_of_pos hrun, List.takeWhile_cons_of_neg (by simp [hstop]),
      List.append_nil]
  have hsame : run = run' := by
    rw [← htake hrun hstop, heq, htake hrun' hstop']
  subst hsame
  exact ⟨rfl, List.append_cancel_left heq⟩

/-- A number and what stands behind it follow from the text of both. -/
theorem digits_append_inj {number number' : Nat} {stop : Char} {rest rest' : List Char}
    (hstop : stop.isDigit = false)
    (heq : (toString number).toList ++ stop :: rest = (toString number').toList ++ stop :: rest') :
    number = number' ∧ rest = rest' := by
  simp only [Nat.toString_eq_ofList_toDigits, String.toList_ofList] at heq
  have hdigits : ∀ number : Nat, ∀ digit ∈ Nat.toDigits 10 number, digit.isDigit = true :=
    fun number digit hmem => Nat.isDigit_of_mem_toDigits (by decide) (by decide) hmem
  obtain ⟨hnumber, hrest⟩ :=
    append_cons_inj_of_all (hdigits number) (hdigits number') hstop hstop heq
  refine ⟨?_, (List.cons.inj hrest).2⟩
  rw [← Nat.ofDigitChars_ten_toDigits (n := number), hnumber, Nat.ofDigitChars_ten_toDigits]

/-- The octets of an address that fits are those of no other one. -/
theorem Octets.ofNatBE_toNat_inj {address address' : UInt32}
    (heq : ofNatBE 4 address.toNat = ofNatBE 4 address'.toNat) : address = address' := by
  have hback (address : UInt32) : toNatBE (ofNatBE 4 address.toNat) = address.toNat := by
    rw [toNatBE_ofNatBE]
    exact Nat.mod_eq_of_lt address.toNat_lt
  rw [← UInt32.toNat_inj, ← hback address, heq, hback]

namespace Knock

variable {knock knock' : Knock} {rest rest' : List Char}

/-! ## Lines in front of something else -/

/-- The fields of a line, each with the character that ends it. -/
theorem exists_toList_line_append (knock : Knock) (rest : List Char) :
    ∃ a b c d, Octets.ofNatBE 4 knock.source.toNat = [a, b, c, d] ∧
      knock.line.toList ++ rest =
        (toString a.toNat).toList ++ '.' :: ((toString b.toNat).toList ++
          '.' :: ((toString c.toNat).toList ++ '.' :: ((toString d.toNat).toList ++
            ',' :: ((toString knock.port.toNat).toList ++ '\n' :: rest)))) := by
  obtain ⟨a, b, c, d, hoctets⟩ :=
    List.length_eq_four.mp (Octets.length_ofNatBE 4 knock.source.toNat)
  refine ⟨a, b, c, d, hoctets, ?_⟩
  have hdotted : Ipv4.dotted knock.source =
      toString a.toNat ++ "." ++ toString b.toNat ++ "." ++ toString c.toNat ++ "." ++
        toString d.toNat := by
    rw [Ipv4.dotted, hoctets]
    rfl
  rw [line, hdotted]
  simp

/-- A line and what stands behind it follow from the text of both. -/
theorem line_append_inj (heq : knock.line.toList ++ rest = knock'.line.toList ++ rest') :
    (knock.source = knock'.source ∧ knock.port = knock'.port) ∧ rest = rest' := by
  obtain ⟨a, b, c, d, hoctets, hline⟩ := exists_toList_line_append knock rest
  obtain ⟨a', b', c', d', hoctets', hline'⟩ := exists_toList_line_append knock' rest'
  rw [hline, hline'] at heq
  -- one field after the other
  obtain ⟨ha, heq⟩ := digits_append_inj (by decide) heq
  obtain ⟨hb, heq⟩ := digits_append_inj (by decide) heq
  obtain ⟨hc, heq⟩ := digits_append_inj (by decide) heq
  obtain ⟨hd, heq⟩ := digits_append_inj (by decide) heq
  obtain ⟨hport, heq⟩ := digits_append_inj (by decide) heq
  rw [UInt8.toNat_inj] at ha hb hc hd
  refine ⟨⟨Octets.ofNatBE_toNat_inj ?_, UInt16.toNat_inj.mp hport⟩, heq⟩
  rw [hoctets, hoctets', ha, hb, hc, hd]

theorem line_ne_nil (knock : Knock) : knock.line.toList ≠ [] := by
  rw [line]
  simp

/-! ## Whole texts -/

theorem toList_lines (knocks : List Knock) :
    (lines knocks).toList = knocks.flatMap fun knock => knock.line.toList := by
  have hbehind : ∀ text : String,
      (knocks.foldl (fun text knock => text ++ knock.line) text).toList =
        text.toList ++ knocks.flatMap fun knock => knock.line.toList := by
    induction knocks with
    | nil => simp
    | cons knock knocks ih =>
      intro text
      rw [List.foldl_cons, ih, String.toList_append, List.append_assoc, List.flatMap_cons]
  exact hbehind ""

/-- The lines of knocks are the same text if and only if there are as many of them and they agree,
one by one, in address and port: of the sequence of knocks nothing is lost but what fills their
records up. -/
theorem lines_eq_lines_iff {knocks knocks' : List Knock} :
    lines knocks = lines knocks' ↔
      List.Forall₂ (fun knock knock' => knock.source = knock'.source ∧ knock.port = knock'.port)
        knocks knocks' := by
  rw [← String.toList_inj, toList_lines, toList_lines]
  constructor
  · intro heq
    induction knocks generalizing knocks' with
    | nil =>
      cases knocks' with
      | nil => exact .nil
      | cons knock' knocks' =>
        rw [List.flatMap_cons] at heq
        exact absurd (List.append_eq_nil_iff.mp heq.symm).1 knock'.line_ne_nil
    | cons knock knocks ih =>
      cases knocks' with
      | nil =>
        rw [List.flatMap_cons] at heq
        exact absurd (List.append_eq_nil_iff.mp heq).1 knock.line_ne_nil
      | cons knock' knocks' =>
        obtain ⟨hknock, hrest⟩ := line_append_inj heq
        exact .cons hknock (ih hrest)
  · intro hagree
    induction hagree with
    | nil => rfl
    | @cons knock knock' knocks knocks' hknock _ ih =>
      have hline : knock.line = knock'.line := by
        rw [line, line, hknock.1, hknock.2]
      rw [List.flatMap_cons, List.flatMap_cons, hline, ih]

end Knock

end PortKnock
