import PortKnock.Config.Printer
import PortKnock.Proofs.Config.Meaning

/-!
# Printed configurations are read back

What is printed for a configuration is an object text of the grammar, whatever
characters its strings have and however large its numbers are
(`document_print`).  The rest is the meaning of this object: its members give
every field once, and each gives the value that the configuration has.
-/

namespace PortKnock.Config

open Json

variable {rest : List Char}

/-! ## Strings -/

theorem hexDigit_hexDigit {value : Nat} (hlt : value < 16) : HexDigit (hexDigit value) value :=
  ⟨hlt, Or.inl rfl⟩

/-- A control character is printed by its number, of which two hexadecimal digits are left. -/
theorem hexText_of_isControl {c : Char} (hcontrol : c.toNat < 0x20) :
    HexText ('0' :: '0' :: hexDigit (c.toNat / 16) :: hexDigit (c.toNat % 16) :: rest) c.toNat
      rest := by
  have hdigits : HexText
      ('0' :: '0' :: hexDigit (c.toNat / 16) :: hexDigit (c.toNat % 16) :: rest)
      (4096 * 0 + 256 * 0 + 16 * (c.toNat / 16) + c.toNat % 16) rest :=
    .digits (hexDigit_hexDigit (by decide)) (hexDigit_hexDigit (by decide))
      (hexDigit_hexDigit (by omega)) (hexDigit_hexDigit (by omega))
  have hvalue : 4096 * 0 + 256 * 0 + 16 * (c.toNat / 16) + c.toNat % 16 = c.toNat := by omega
  rwa [hvalue] at hdigits

/-- A printed character stands for itself, in whichever way it is printed. -/
theorem charText_escapeChar (c : Char) : CharText (escapeChar c ++ rest) c rest := by
  unfold escapeChar
  split
  case h_8 hquote hbackslash _ _ _ _ _ =>
    split
    · rename_i hcontrol
      exact .unit (hexText_of_isControl hcontrol)
    · rename_i hcontrol
      exact .plain hquote hbackslash (Nat.not_lt.mp hcontrol)
  all_goals exact .short (by decide)

theorem stringText_flatMap (cs : List Char) :
    StringText (cs.flatMap escapeChar ++ '"' :: rest) cs rest := by
  induction cs with
  | nil => exact .close
  | cons c cs ih =>
    rw [List.flatMap_cons, List.append_assoc]
    exact .char (charText_escapeChar c) ih

theorem written_printText (value : String) :
    Written (printText value ++ rest) (.value (.text value)) rest := by
  rw [printText, List.cons_append, List.append_assoc]
  exact .text (stringText_flatMap value.toList)

/-! ## Values -/

/-- The value that is printed for a setting. -/
def Setting.value : Setting → Value
  | .networkInterface value => .text value
  | .captureMode value => .text value.key
  | .bpfObjectPath (some value) => .text value
  | .bpfObjectPath none => .null
  | .genericMode value => .boolean value
  | .strictEtherType value => .boolean value
  | .ringByteSize value => .number (some value.toNat)
  | .captureThreads value => .number (some value.toNat)
  | .debug value => .boolean value

/-- It says what the setting says. -/
theorem setting?_value (setting : Setting) :
    setting.field.setting? setting.value = some setting := by
  cases setting with
  | bpfObjectPath path => cases path <;> rfl
  | captureMode mode => cases mode <;> rfl
  | ringByteSize count | captureThreads count =>
    simp [Setting.field, Setting.value, Field.setting?, count?, count.toNat_lt]
  | _ => rfl

theorem digitsText_of_isDigit {digits : List Char} (hne : digits ≠ [])
    (hdigits : ∀ digit ∈ digits, digit.isDigit = true) :
    DigitsText (digits ++ rest) digits rest := by
  induction digits with
  | nil => exact absurd rfl hne
  | cons digit digits ih =>
    cases digits with
    | nil => exact .one (hdigits digit List.mem_cons_self)
    | cons next digits =>
      exact .more (hdigits digit List.mem_cons_self)
        (ih (List.cons_ne_nil _ _) fun digit hmem => hdigits digit (List.mem_cons_of_mem _ hmem))

/-- A number that is not zero does not start with a zero. -/
theorem head?_toDigits_ne {value : Nat} (hpos : 0 < value) :
    (Nat.toDigits 10 value).head? ≠ some '0' := by
  induction value using Nat.strongRecOn with
  | _ value ih =>
    by_cases hlt : value < 10
    · have hdigit : ∀ value < 10, 0 < value → some (Nat.digitChar value) ≠ some '0' := by decide
      rw [Nat.toDigits_of_lt_base hlt]
      exact hdigit value hlt hpos
    · rw [Nat.toDigits_of_base_le (by decide) (Nat.not_lt.mp hlt),
        List.head?_append_of_ne_nil _ Nat.toDigits_ne_nil]
      exact ih (value / 10) (by omega) (by omega)

theorem wholeText_toDigits (value : Nat) :
    WholeText (Nat.toDigits 10 value ++ rest) value rest := by
  rcases Nat.eq_zero_or_pos value with rfl | hpos
  · exact .zero
  · have hdigits : DigitsText (Nat.toDigits 10 value ++ rest) (Nat.toDigits 10 value) rest :=
      digitsText_of_isDigit Nat.toDigits_ne_nil
        fun digit hmem => Nat.isDigit_of_mem_toDigits (by decide) (by decide) hmem
    have hvalue : Nat.ofDigitChars 10 (Nat.toDigits 10 value) 0 = value :=
      Nat.ofDigitChars_toDigits (by decide) (by decide)
    have hfirst := head?_toDigits_ne hpos
    generalize Nat.toDigits 10 value = digits at hdigits hvalue hfirst
    cases digits with
    | nil => cases hdigits
    | cons first digits =>
      rw [← hvalue]
      exact .positive (fun h => hfirst (by rw [h]; rfl)) hdigits

theorem written_printCount (value : UInt64) :
    Written (printCount value ++ rest) (.value (.number (some value.toNat))) rest :=
  .number (.parts .absent (wholeText_toDigits value.toNat) .absent .absent)

theorem written_printBoolean (value : Bool) :
    Written (printBoolean value ++ rest) (.value (.boolean value)) rest := by
  cases value
  · exact .wordFalse
  · exact .wordTrue

theorem written_printValue (setting : Setting) :
    Written (printValue setting ++ rest) (.value setting.value) rest := by
  cases setting with
  | networkInterface value => exact written_printText value
  | captureMode value => exact written_printText value.key
  | bpfObjectPath path =>
    cases path with
    | none => exact .wordNull
    | some value => exact written_printText value
  | genericMode value | strictEtherType value | debug value => exact written_printBoolean value
  | ringByteSize value | captureThreads value => exact written_printCount value

/-! ## Members -/

/-- The member that is printed for a setting. -/
def Setting.member (setting : Setting) : String × Value :=
  (setting.field.key, setting.value)

theorem nameText_printMember (setting : Setting) :
    NameText ('\n' :: (printMember setting ++ rest)) setting.field.key
      (' ' :: (printValue setting ++ rest)) := by
  simp only [printMember, printText, List.append_assoc, List.cons_append, List.nil_append]
  exact .quoted (.more (by simp) (.more (by simp) (.more (by simp) .none)))
    (stringText_flatMap setting.field.key.toList) .none

/-- The lines of members, from the end of the line before them on. -/
theorem written_printMember (setting : Setting) (settings : List Setting) :
    Written
      ('\n' :: ([',', '\n'].intercalate ((setting :: settings).map printMember) ++
        '\n' :: '\x7d' :: rest))
      (.members ((setting :: settings).map Setting.member)) rest := by
  induction settings generalizing setting with
  | nil =>
    simp only [List.map_cons, List.map_nil, List.intercalate_singleton]
    exact .lastMember (nameText_printMember setting) (.more (by simp) .none)
      (written_printValue setting) (.more (by simp) .none)
  | cons next settings ih =>
    simp only [List.map_cons, List.intercalate_cons_cons, List.append_assoc, List.cons_append,
      List.nil_append]
    exact .member (nameText_printMember setting) (.more (by simp) .none)
      (written_printValue setting) .none (ih next)

/-- The members that are printed for a configuration. -/
def printedMembers (config : Config) : List (String × Value) :=
  (Field.all.map config.setting).map Setting.member

theorem document_print (config : Config) :
    Document config.print.toList (.object (printedMembers config)) := by
  rw [print, String.toList_ofList, printMembers, List.append_assoc]
  exact .value .none (.object (written_printMember _ _)) .none

/-! ## Reading back -/

theorem Field.mem_all (field : Field) : field ∈ Field.all := by
  cases field <;> decide

theorem mem_printedMembers {config : Config} {field : Field} {value : Value} :
    (field.key, value) ∈ printedMembers config ↔ value = (config.setting field).value := by
  simp only [printedMembers, List.map_map, List.mem_map, Function.comp_apply, Setting.member,
    setting_field, Prod.mk.injEq]
  constructor
  · rintro ⟨other, -, hkey, rfl⟩
    rw [Field.key_injective hkey]
  · rintro rfl
    exact ⟨field, field.mem_all, rfl, rfl⟩

theorem setting?_of_mem_printedMembers {config : Config} {field : Field} {value : Value}
    (hmem : (field.key, value) ∈ printedMembers config) :
    field.setting? value = some (config.setting field) := by
  have hvalue := setting?_value (config.setting field)
  rwa [setting_field, ← mem_printedMembers.mp hmem] at hvalue

theorem wellTyped_printedMembers (config : Config) : WellTyped (printedMembers config) :=
  fun _ _ hmem => Option.isSome_iff_exists.mpr ⟨_, setting?_of_mem_printedMembers hmem⟩

theorem givenOnce_printedMembers (config : Config) : GivenOnce (printedMembers config) := by
  have hnames : (printedMembers config).map Prod.fst = Field.all.map Field.key := by
    simp [printedMembers, Setting.member, setting_field]
  intro field
  rw [hnames]
  cases field <;> decide

theorem describes_printedMembers (config : Config) : Describes (printedMembers config) config where
  given _ _ hmem := setting?_of_mem_printedMembers hmem
  absent _ habsent :=
    absurd (List.mem_map.mpr ⟨_, mem_printedMembers.mpr rfl, rfl⟩) habsent

/-- A configuration that can be run comes back as it was when its text is read. -/
theorem parse_print {config : Config} (hvalid : config.validate = .ok ()) :
    parse config.print = .ok config := by
  rw [parse_of_describes (document_print config) (wellTyped_printedMembers config)
    (givenOnce_printedMembers config) (describes_printedMembers config), hvalid]

theorem parse_print_of_odd_names :
    parse (print {
        networkInterface := "e\"\\\t\x01é😀", bpfObjectPath := some "", ringByteSize := 16,
        captureThreads := 18446744073709551615 }) =
      .ok {
        networkInterface := "e\"\\\t\x01é😀", bpfObjectPath := some "", ringByteSize := 16,
        captureThreads := 18446744073709551615 } :=
  parse_print (by decide)

end PortKnock.Config
