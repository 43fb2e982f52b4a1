import PortKnock.Json.Ignored
import PortKnock.Proofs.Json.Scanning

/-!
# Skipping whole values

An ignored value is left behind in one piece, however deep it nests
(`skipValue_of_written`).

The skipper keeps the containers that are still open in a list, and in the
middle of a value it does not know where it will stop.  So the induction says
of every part of a value what it leaves to do: behind an ignored value the
skipper goes on with whatever is open, and behind the last element or member
with whatever is open around the container.
-/

namespace PortKnock.Json

variable {text before rest : List Char}

/-! ## One step -/

/-- Nobody looks at the blanks before a value. -/
theorem skipValue_congr {opened : List Container} (h : skipBlank text = skipBlank before) :
    skipValue opened text = skipValue opened before := by
  rw [skipValue_eq, skipValue_eq opened before, h]

theorem skipName_congr (h : skipBlank text = skipBlank before) :
    skipName text = skipName before := by
  rw [skipName, skipName, h]

theorem skipName_of_nameText {name : String} (hname : NameText text name rest) :
    skipName text = .ok rest := by
  cases hname with
  | quoted hbefore hname hcolon =>
    simp [skipName, skipBlank_eq_cons hbefore rfl, skipString_of_stringText hname,
      skipBlank_eq_cons hcolon rfl]

theorem skipName_bind {name : String} (hname : NameText text name rest)
    (next : List Char → Except Problem (List Char)) : skipName text >>= next = next rest := by
  rw [skipName_of_nameText hname]
  rfl

/-! ## Whole values -/

/-- What is left to do when a part is left behind. -/
def Skipped (text : List Char) (rest : List Char) : Part → Prop
  | .value _ => EndsNumber rest → ∀ opened, skipValue opened text = skipBehind opened rest
  | .elements _ => ∀ opened, skipValue (.list :: opened) text = skipBehind opened rest
  | .members _ => ∀ opened,
      skipName text >>= skipValue (.object :: opened) = skipBehind opened rest

theorem not_mem_of_isDigit {c : Char} (hc : c.isDigit = true) :
    c ∉ ['n', 't', 'f', '-', '"', '[', '\x7b', ' ', '\t', '\n', '\r'] := by
  have hall : ∀ c ∈ ['n', 't', 'f', '-', '"', '[', '\x7b', ' ', '\t', '\n', '\r'],
      c.isDigit = false := by simp [Char.isDigit]
  intro hmem
  rw [hall c hmem] at hc
  exact Bool.false_ne_true hc

/-- A value starts with a character that is neither a blank nor the end of a list. -/
theorem Written.cons {value : Value} (hvalue : Written text (.value value) rest) :
    ∃ first more, text = first :: more ∧ isBlank first = false ∧ first ≠ ']' := by
  cases hvalue with
  | number hnumber =>
    obtain ⟨first, more, rfl, rfl | hfirst⟩ := hnumber.cons
    · exact ⟨_, _, rfl, rfl, by decide⟩
    · have hnot := not_mem_of_isDigit hfirst
      refine ⟨_, _, rfl, by simp_all [isBlank], ?_⟩
      rintro rfl
      cases hfirst
  | _ => exact ⟨_, _, rfl, rfl, by decide⟩

theorem Written.skipBlank_eq {value : Value} (hvalue : Written text (.value value) rest) :
    skipBlank text = text := by
  obtain ⟨first, more, rfl, hblank, _⟩ := hvalue.cons
  exact skipBlank_cons_of_not_isBlank hblank

theorem skipBlank_eq_of_written {value : Value} (hbefore : Blanks before text)
    (hvalue : Written text (.value value) rest) : skipBlank before = text :=
  (skipBlank_of_blanks hbefore).trans hvalue.skipBlank_eq

/-- Elements start with a value, behind blanks. -/
theorem Written.skipBlank_of_elements {elements : List Value}
    (helements : Written text (.elements elements) rest) :
    ∃ first more, skipBlank text = first :: more ∧ skipBlank (first :: more) = skipBlank text ∧
      first ≠ ']' := by
  have hvalue : ∃ value closed opened,
      Blanks text opened ∧ Written opened (.value value) closed := by
    cases helements with
    | lastElement hbefore hvalue _ => exact ⟨_, _, _, hbefore, hvalue⟩
    | element hbefore hvalue _ _ => exact ⟨_, _, _, hbefore, hvalue⟩
  obtain ⟨value, closed, opened, hbefore, hvalue⟩ := hvalue
  obtain ⟨first, more, rfl, hblank, hend⟩ := hvalue.cons
  have hskip := skipBlank_eq_cons hbefore hblank
  exact ⟨first, more, hskip, by rw [hskip, skipBlank_cons_of_not_isBlank hblank], hend⟩

/-- Members start with the quote of a name, behind blanks. -/
theorem Written.skipBlank_of_members {members : List (String × Value)}
    (hmembers : Written text (.members members) rest) :
    ∃ opened, skipBlank text = '"' :: opened := by
  have hname : ∃ name behind, NameText text name behind := by
    cases hmembers with
    | lastMember hname _ _ _ => exact ⟨_, _, hname⟩
    | member hname _ _ _ _ => exact ⟨_, _, hname⟩
  obtain ⟨name, behind, ⟨hbefore, _, _⟩⟩ := hname
  exact ⟨_, skipBlank_eq_cons hbefore rfl⟩

theorem skipValue_of_numberText {plain : Option Nat} (hnumber : NumberText text plain rest)
    (hend : EndsNumber rest) (opened : List Container) :
    skipValue opened text = skipBehind opened rest := by
  have hblank : skipBlank text = text := Written.skipBlank_eq (.number hnumber)
  cases hnumber with
  | parts hsign hwhole hfraction hexponent =>
    have hskip := skipMagnitude_of_wholeText hwhole hfraction hexponent hend
    rw [skipValue_eq, hblank]
    cases hsign with
    | absent =>
      obtain ⟨digit, more, rfl, hdigit⟩ := hwhole.cons
      have hnot := not_mem_of_isDigit hdigit
      simp only [List.mem_cons, List.not_mem_nil, or_false, not_or] at hnot
      split <;> simp_all
      rfl
    | minus =>
      simp only [hskip]
      rfl

/-- A value inside a container, from before its blanks to behind it. -/
theorem skipValue_of_skipped {value : Value} {c : Char} {closed behind : List Char}
    (hbefore : Blanks before text) (hskipped : Skipped text closed (.value value))
    (hc : c ∈ [',', ']', '\x7d']) (hend : Blanks closed (c :: behind)) (opened : List Container) :
    skipValue opened before = skipBehind opened closed := by
  rw [skipValue_congr (skipBlank_of_blanks hbefore)]
  exact hskipped (.of_blanks hc hend) opened

theorem skipped_of_written {part : Part} (hpart : Written text part rest) :
    Skipped text rest part := by
  induction hpart with
  -- single values
  | wordNull | wordTrue | wordFalse =>
    intro _ opened
    rw [skipValue_eq, skipBlank_cons_of_not_isBlank rfl]
    rfl
  | number hnumber => exact fun hend opened => skipValue_of_numberText hnumber hend opened
  | text htext =>
    intro _ opened
    rw [skipValue_eq, skipBlank_cons_of_not_isBlank rfl]
    simp only [skipString_of_stringText htext]
    rfl
  -- containers: what is behind the bracket that opens them is skipped as their parts
  | emptyList hend | emptyObject hend =>
    intro _ opened
    rw [skipValue_eq, skipBlank_cons_of_not_isBlank rfl]
    simp only [skipBlank_eq_cons hend rfl]
  | list helements ih =>
    intro _ opened
    obtain ⟨first, more, hskip, hsame, hfirst⟩ := helements.skipBlank_of_elements
    rw [skipValue_eq, skipBlank_cons_of_not_isBlank rfl, ← ih opened, ← skipValue_congr hsame]
    simp [hskip, hfirst]
  | object hmembers ih =>
    intro _ opened
    obtain ⟨more, hskip⟩ := hmembers.skipBlank_of_members
    have hsame :=
      hskip.trans (skipBlank_cons_of_not_isBlank (show isBlank '"' = false from rfl)).symm
    rw [skipValue_eq, skipBlank_cons_of_not_isBlank rfl, ← ih opened, skipName_congr hsame]
    simp [hskip]
  -- parts: behind the last one the container is closed, behind any other one the next is skipped
  | lastElement hbefore _ hend ih =>
    intro opened
    rw [skipValue_of_skipped hbefore ih (by simp) hend, skipBehind_eq]
    simp only [skipBlank_eq_cons hend rfl]
  | element hbefore _ hcomma _ ih ihmore =>
    intro opened
    rw [skipValue_of_skipped hbefore ih (by simp) hcomma, skipBehind_eq]
    simp only [skipBlank_eq_cons hcomma rfl]
    exact ihmore opened
  | lastMember hname hbefore _ hend ih =>
    intro opened
    rw [skipName_bind hname, skipValue_of_skipped hbefore ih (by simp) hend, skipBehind_eq]
    simp only [skipBlank_eq_cons hend rfl]
  | member hname hbefore _ hcomma _ ih ihmore =>
    intro opened
    rw [skipName_bind hname, skipValue_of_skipped hbefore ih (by simp) hcomma, skipBehind_eq]
    simp only [skipBlank_eq_cons hcomma rfl]
    exact ihmore opened

/-- An ignored value is left behind as a whole. -/
theorem skipValue_of_written {value : Value} (hbefore : Blanks before text)
    (hvalue : Written text (.value value) rest) (hend : EndsNumber rest) :
    skipValue [] before = .ok rest := by
  rw [skipValue_congr (skipBlank_of_blanks hbefore), skipped_of_written hvalue hend, skipBehind_eq]

end PortKnock.Json
