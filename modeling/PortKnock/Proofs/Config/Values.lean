import PortKnock.Config.Reader
import PortKnock.Proofs.Json.Reading

/-!
# Values of the fields

Which values a field takes, and what they set.  `Field.setting?` says it of a
value as such; the reader of a field gives just this setting for a value of the
field's type.  For any other value it gives nothing or, if there is an
alternative spelling that it knows, a setting of the same field; in any case it
stops where the value ends.
-/

namespace PortKnock.Config

open Json

variable {text before rest stop : List Char} {value : Value}

/-- A whole number of 64 bits. -/
def count? (value : Nat) : Option UInt64 :=
  if value < 2 ^ 64 then some (UInt64.ofNat value) else none

/-- What a value sets, if it is one of the field's type. -/
def Field.setting? : Field → Value → Option Setting
  | .networkInterface, .text value => some (.networkInterface value)
  | .captureMode, .text value => (CaptureMode.ofKey? value).map .captureMode
  | .bpfObjectPath, .null => some (.bpfObjectPath none)
  | .bpfObjectPath, .text value => some (.bpfObjectPath (some value))
  | .genericMode, .boolean value => some (.genericMode value)
  | .strictEtherType, .boolean value => some (.strictEtherType value)
  | .ringByteSize, .number (some value) => (count? value).map .ringByteSize
  | .captureThreads, .number (some value) => (count? value).map .captureThreads
  | .debug, .boolean value => some (.debug value)
  | _, _ => none

/-! ## Capture modes -/

theorem readModeName_eq_ok_iff {mode : CaptureMode} (hbefore : Blanks before text)
    (hvalue : Written text (.value value) rest) :
    readModeName before = .ok (mode, stop) ↔
      ∃ name, value = .text name ∧ CaptureMode.ofKey? name = some mode ∧ stop = rest := by
  have htext (name : String) (behind : List Char) :
      readText "variant identifier" before = .ok (name, behind) ↔ _ :=
    readText_eq_ok_iff hbefore hvalue
  constructor
  · intro h
    rw [readModeName] at h
    split at h
    · cases h
    · rename_i name behind hread
      obtain ⟨hname, hbehind⟩ := (htext name behind).mp hread
      split at h
      · rename_i hmode
        cases h
        exact ⟨name, hname, hmode, hbehind⟩
      · cases h
  · rintro ⟨name, hname, hmode, rfl⟩
    simp only [readModeName, (htext name stop).mpr ⟨hname, rfl⟩, hmode]

theorem readMode_of_ofKey? {name : String} {mode : CaptureMode} (hbefore : Blanks before text)
    (hvalue : Written text (.value (.text name)) rest)
    (hmode : CaptureMode.ofKey? name = some mode) :
    readMode before = .ok (mode, rest) := by
  have hread : readModeName text = .ok (mode, rest) :=
    (readModeName_eq_ok_iff .none hvalue).mpr ⟨name, rfl, hmode, rfl⟩
  rw [readMode, skipBlank_eq_of_written hbefore hvalue]
  cases hvalue with
  | text => exact hread

/-- An object may give a mode, too, if it ends behind its first member. -/
theorem skipBlank_of_readModeMember {mode : CaptureMode} {name : String}
    {opened behind closed : List Char} (hopened : skipBlank before = '"' :: opened)
    (hname : NameText before name behind) (hbehind : Blanks behind text)
    (hvalue : Written text (.value value) closed)
    (h : readModeMember ('"' :: opened) = .ok (mode, stop)) :
    skipBlank closed = '\x7d' :: stop := by
  cases hname with
  | quoted hquote hstring hcolon =>
    rw [skipBlank_eq_cons hquote rfl] at hopened
    cases hopened
    unfold readModeMember at h
    split at h
    · cases h
    · rename_i hmode
      obtain ⟨_, _, _, rfl⟩ := (readModeName_eq_ok_iff .none (.text hstring)).mp hmode
      rw [readColon_of_blanks hcolon] at h
      simp only at h
      split at h
      · cases h
      · rename_i hnull
        rw [eq_of_readNull hbehind hvalue hnull] at h
        split at h
        · cases h
        · rename_i hblank
          cases h
          exact hblank
        · cases h

theorem eq_of_readModeMember {mode : CaptureMode} {members : List (String × Value)}
    {opened : List Char} (hopened : skipBlank before = '"' :: opened)
    (hmembers : Written before (.members members) rest)
    (h : readModeMember ('"' :: opened) = .ok (mode, stop)) : stop = rest := by
  cases hmembers with
  | lastMember hname hbehind hvalue hend =>
    have hblank := skipBlank_of_readModeMember hopened hname hbehind hvalue h
    rw [skipBlank_eq_cons hend rfl] at hblank
    cases hblank
    rfl
  | member hname hbehind hvalue hcomma _ =>
    have hblank := skipBlank_of_readModeMember hopened hname hbehind hvalue h
    rw [skipBlank_eq_cons hcomma rfl] at hblank
    cases hblank

theorem eq_of_readMode {mode : CaptureMode} (hbefore : Blanks before text)
    (hvalue : Written text (.value value) rest) (h : readMode before = .ok (mode, stop)) :
    stop = rest := by
  rw [readMode, skipBlank_eq_of_written hbefore hvalue] at h
  cases hvalue with
  | text htext =>
    obtain ⟨_, _, _, hstop⟩ := (readModeName_eq_ok_iff .none (.text htext)).mp h
    exact hstop
  | object hmembers =>
    obtain ⟨opened, hopened⟩ := hmembers.skipBlank_of_members
    simp only [readModeObject, hopened] at h
    exact eq_of_readModeMember hopened hmembers h
  | emptyObject hend =>
    simp only [readModeObject, skipBlank_eq_cons hend rfl] at h
    cases h
  | number hnumber =>
    obtain ⟨first, more, rfl, hfirst⟩ := hnumber.cons
    split at h <;> simp_all
  | _ => cases h

/-! ## Settings -/

/-- Whatever a value is, its reader gives a setting of the field that it reads for, and stops where
the value ends. -/
theorem eq_of_readSetting {field : Field} {setting : Setting} (hbefore : Blanks before text)
    (hvalue : Written text (.value value) rest) (hend : EndsNumber rest)
    (h : readSetting field before = .ok (setting, stop)) : setting.field = field ∧ stop = rest := by
  cases field with
  | networkInterface =>
    obtain ⟨result, hread, rfl⟩ := exists_of_map_eq_ok h
    exact ⟨rfl, ((readText_eq_ok_iff hbefore hvalue).mp hread).2⟩
  | captureMode =>
    obtain ⟨result, hread, rfl⟩ := exists_of_map_eq_ok h
    exact ⟨rfl, eq_of_readMode hbefore hvalue hread⟩
  | bpfObjectPath =>
    obtain ⟨result, hread, rfl⟩ := exists_of_map_eq_ok h
    exact ⟨rfl, ((readText?_eq_ok_iff hbefore hvalue).mp hread).2⟩
  | genericMode | strictEtherType | debug =>
    obtain ⟨result, hread, rfl⟩ := exists_of_map_eq_ok h
    exact ⟨rfl, ((readBoolean_eq_ok_iff hbefore hvalue).mp hread).2⟩
  | ringByteSize | captureThreads =>
    obtain ⟨result, hread, rfl⟩ := exists_of_map_eq_ok h
    exact ⟨rfl, eq_of_readCount hbefore hvalue hend hread⟩

theorem readCount_of_count? {digits : Nat} {count : UInt64} (hbefore : Blanks before text)
    (hvalue : Written text (.value (.number (some digits))) rest) (hend : EndsNumber rest)
    (hcount : count? digits = some count) : readCount before = .ok (count, rest) := by
  unfold count? at hcount
  split at hcount
  · rename_i hlt
    cases hcount
    exact readCount_of_number hbefore hvalue hlt hend
  · cases hcount

/-- A value of the field's type gives its setting. -/
theorem readSetting_of_setting? {field : Field} {setting : Setting} (hbefore : Blanks before text)
    (hvalue : Written text (.value value) rest) (hend : EndsNumber rest)
    (hsetting : field.setting? value = some setting) :
    readSetting field before = .ok (setting, rest) := by
  unfold Field.setting? at hsetting
  split at hsetting
  case h_1 =>
    cases hsetting
    simp only [readSetting, (readText_eq_ok_iff hbefore hvalue).mpr ⟨rfl, rfl⟩]
    rfl
  case h_2 name =>
    obtain ⟨mode, hmode, rfl⟩ := Option.map_eq_some_iff.mp hsetting
    simp only [readSetting, readMode_of_ofKey? hbefore hvalue hmode]
    rfl
  case h_3 =>
    cases hsetting
    simp only [readSetting, (readText?_eq_ok_iff hbefore hvalue).mpr ⟨Or.inl ⟨rfl, rfl⟩, rfl⟩]
    rfl
  case h_4 path =>
    cases hsetting
    simp only [readSetting,
      (readText?_eq_ok_iff hbefore hvalue).mpr ⟨Or.inr ⟨path, rfl, rfl⟩, rfl⟩]
    rfl
  case h_5 | h_6 | h_9 =>
    cases hsetting
    simp only [readSetting, (readBoolean_eq_ok_iff hbefore hvalue).mpr ⟨rfl, rfl⟩]
    rfl
  case h_7 | h_8 =>
    obtain ⟨count, hcount, rfl⟩ := Option.map_eq_some_iff.mp hsetting
    simp only [readSetting, readCount_of_count? hbefore hvalue hend hcount]
    rfl
  case h_10 => cases hsetting

theorem Field.field_of_setting? {field : Field} {setting : Setting}
    (hsetting : field.setting? value = some setting) : setting.field = field := by
  unfold Field.setting? at hsetting
  split at hsetting
  case h_2 | h_7 | h_8 =>
    obtain ⟨_, _, rfl⟩ := Option.map_eq_some_iff.mp hsetting
    rfl
  case h_10 => cases hsetting
  all_goals
    cases hsetting
    rfl

end PortKnock.Config
