import PortKnock.Json.Typed
import PortKnock.Proofs.Json.Skipping

/-!
# Reading values of an expected type

For every reader of a value, what it gives is settled by the value alone, and
it stops where the value ends.  So a reader that is handed a value of another
type cannot give anything, whatever it complains about.
-/

namespace PortKnock.Json

variable {text before rest stop : List Char} {value : Value}

theorem readText_eq_ok_iff {expected result : String} (hbefore : Blanks before text)
    (hvalue : Written text (.value value) rest) :
    readText expected before = .ok (result, stop) ↔ value = .text result ∧ stop = rest := by
  rw [readText, skipBlank_eq_of_written hbefore hvalue]
  cases hvalue with
  | text htext => simp [readString_of_stringText htext, eq_comm]
  | number hnumber =>
    obtain ⟨first, more, rfl, hfirst⟩ := hnumber.cons
    split <;> simp_all
  | _ => simp

theorem readBoolean_eq_ok_iff {result : Bool} (hbefore : Blanks before text)
    (hvalue : Written text (.value value) rest) :
    readBoolean before = .ok (result, stop) ↔ value = .boolean result ∧ stop = rest := by
  rw [readBoolean, skipBlank_eq_of_written hbefore hvalue]
  cases hvalue with
  | wordTrue => simp [readWord, eq_comm]
  | wordFalse => simp [readWord, eq_comm]
  | number hnumber =>
    obtain ⟨first, more, rfl, hfirst⟩ := hnumber.cons
    split <;> simp_all
  | _ => simp

theorem readText?_of_ne_null {expected : String} (hbefore : Blanks before text)
    (hvalue : Written text (.value value) rest) (hnull : value ≠ .null) :
    readText? expected before =
      (readText expected text).map fun (result, rest) => (some result, rest) := by
  rw [readText?, skipBlank_eq_of_written hbefore hvalue]
  split
  · cases hvalue with
    | wordNull => exact absurd rfl hnull
    | number hnumber =>
      obtain ⟨_, _, ⟨⟩, hfirst⟩ := hnumber.cons
      exact absurd hfirst (by decide)
  · cases readText expected text <;> rfl

theorem readText?_eq_ok_iff {expected : String} {result : Option String}
    (hbefore : Blanks before text) (hvalue : Written text (.value value) rest) :
    readText? expected before = .ok (result, stop) ↔
      (value = .null ∧ result = none ∨ ∃ s, value = .text s ∧ result = some s) ∧ stop = rest := by
  by_cases hnull : value = .null
  · subst hnull
    rw [readText?, skipBlank_eq_of_written hbefore hvalue]
    cases hvalue with
    | wordNull => simp [readWord, eq_comm]
  · have htext (s : String) :
        readText expected text = .ok (s, stop) ↔ value = .text s ∧ stop = rest :=
      readText_eq_ok_iff .none hvalue
    rw [readText?_of_ne_null hbefore hvalue hnull]
    constructor
    · intro h
      cases hread : readText expected text with
      | error problem => simp [hread, Except.map] at h
      | ok read =>
        obtain ⟨s, behind⟩ := read
        rw [hread] at h
        cases h
        obtain ⟨hs, hstop⟩ := (htext s).mp hread
        exact ⟨Or.inr ⟨s, hs, rfl⟩, hstop⟩
    · rintro ⟨⟨h, _⟩ | ⟨s, hs, rfl⟩, hstop⟩
      · exact absurd h hnull
      · rw [(htext s).mpr ⟨hs, hstop⟩]
        rfl

/-- A reader of whole numbers stops where the value ends. -/
theorem eq_of_readCount {count : UInt64} (hbefore : Blanks before text)
    (hvalue : Written text (.value value) rest) (hend : EndsNumber rest)
    (h : readCount before = .ok (count, stop)) : stop = rest := by
  rw [readCount, skipBlank_eq_of_written hbefore hvalue] at h
  cases hvalue with
  | number hnumber =>
    obtain ⟨first, more, rfl, hfirst⟩ := hnumber.cons
    simp only [hfirst, if_true] at h
    split at h
    · cases h
    · rename_i hread
      cases h
      exact eq_of_readNumber hnumber hend hread
    · cases h
    · cases h
  | _ => cases h

theorem readCount_of_number {count : Nat} (hbefore : Blanks before text)
    (hvalue : Written text (.value (.number (some count))) rest) (hlt : count < 2 ^ 64)
    (hend : EndsNumber rest) : readCount before = .ok (UInt64.ofNat count, rest) := by
  rw [readCount, skipBlank_eq_of_written hbefore hvalue]
  cases hvalue with
  | number hnumber =>
    have hread := readNumber_of_numberText hnumber hlt hend
    obtain ⟨first, more, rfl, hfirst⟩ := hnumber.cons
    simp only [hfirst, if_true, hread]

/-- A reader of `null` that finds one stops where the value ends. -/
theorem eq_of_readNull (hbefore : Blanks before text) (hvalue : Written text (.value value) rest)
    (h : readNull before = .ok stop) : stop = rest := by
  rw [readNull, skipBlank_eq_of_written hbefore hvalue] at h
  cases hvalue with
  | wordNull => simpa [readWord, eq_comm] using h
  | number hnumber =>
    obtain ⟨first, more, rfl, hfirst⟩ := hnumber.cons
    split at h <;> simp_all
  | _ => cases h

theorem readColon_of_blanks (hcolon : Blanks before (':' :: rest)) :
    readColon before = .ok rest := by
  simp only [readColon, skipBlank_eq_cons hcolon rfl]

end PortKnock.Json
