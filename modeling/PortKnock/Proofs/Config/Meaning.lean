import Mathlib.Data.List.Nodup
import PortKnock.Proofs.Config.Members
import PortKnock.Proofs.Ring.Measures

/-!
# What a configuration object means

The meaning of an object is the default configuration with the given fields
replaced.  `Describes` says this by membership alone, so neither the order of
the members nor the members that name no field can play a role in it; it leaves
no freedom either (`Describes.unique`).

The reader agrees: of an object with well-typed members that gives no field
twice it makes the configuration that the object describes, if that is one that
can be run, and refuses it otherwise.  An object that gives a field twice is
refused whatever else it holds.
-/

namespace PortKnock.Config

open Json

variable {members others : List (String × Value)} {config : Config}

/-! ## Valid configurations -/

/-- What it takes to make a ring of the configured size and to capture frames. -/
structure Valid (config : Config) : Prop where
  powerOfTwo : ∃ k, config.ringByteSize.toNat = 2 ^ k
  sixteen_le : 16 ≤ config.ringByteSize.toNat
  one_le : 1 ≤ config.captureThreads.toNat

theorem validate_eq_ok_iff (config : Config) : config.validate = .ok () ↔ config.Valid := by
  have hsize : config.ringByteSize < 16 ↔ config.ringByteSize.toNat < 16 := UInt64.lt_iff_toNat_lt
  have hthreads : config.captureThreads < 1 ↔ config.captureThreads.toNat < 1 :=
    UInt64.lt_iff_toNat_lt
  unfold validate
  split
  · rename_i hring
    refine ⟨nofun, fun ⟨hpow, hle, _⟩ => ?_⟩
    have := (isPowerOfTwo_iff _).mpr hpow
    have : ¬config.ringByteSize < 16 := by rw [hsize]; omega
    simp_all
  · rename_i hring
    simp only [Bool.or_eq_true, Bool.not_eq_true', decide_eq_true_eq, not_or,
      Bool.not_eq_false] at hring
    rw [isPowerOfTwo_iff, hsize, Nat.not_lt] at hring
    split
    · rename_i hnone
      exact ⟨nofun, fun ⟨_, _, hle⟩ => absurd (hthreads.mp hnone) (Nat.not_lt.mpr hle)⟩
    · rename_i hsome
      exact ⟨fun _ => ⟨hring.1, hring.2, Nat.not_lt.mp (mt hthreads.mpr hsome)⟩, fun _ => rfl⟩

/-! ## Settings and configurations -/

theorem setting_field (config : Config) (field : Field) : (config.setting field).field = field := by
  cases field <;> rfl

/-- Putting a setting in replaces its field and no other one. -/
theorem setting_set (config : Config) (setting : Setting) (field : Field) :
    (config.set setting).setting field =
      if setting.field = field then setting else config.setting field := by
  cases setting <;> cases field <;> rfl

/-- A configuration is all that it has for its fields. -/
theorem eq_of_setting {other : Config} (h : ∀ field, config.setting field = other.setting field) :
    config = other := by
  obtain ⟨_, _, _, _, _, _, _, _⟩ := config
  obtain ⟨_, _, _, _, _, _, _, _⟩ := other
  have h₁ := h .networkInterface
  have h₂ := h .captureMode
  have h₃ := h .bpfObjectPath
  have h₄ := h .genericMode
  have h₅ := h .strictEtherType
  have h₆ := h .ringByteSize
  have h₇ := h .captureThreads
  have h₈ := h .debug
  simp_all [setting]

theorem setting_foldl_of_not_mem {settings : List Setting} {field : Field}
    (hfield : field ∉ settings.map Setting.field) (config : Config) :
    (settings.foldl set config).setting field = config.setting field := by
  induction settings generalizing config with
  | nil => rfl
  | cons setting settings ih =>
    simp only [List.map_cons, List.mem_cons, not_or] at hfield
    rw [List.foldl_cons, ih hfield.2, setting_set, if_neg (Ne.symm hfield.1)]

theorem setting_foldl_of_mem {settings : List Setting} (honce : (settings.map Setting.field).Nodup)
    {setting : Setting} (hmem : setting ∈ settings) (config : Config) :
    (settings.foldl set config).setting setting.field = setting := by
  induction settings generalizing config with
  | nil => cases hmem
  | cons first settings ih =>
    rw [List.map_cons, List.nodup_cons] at honce
    rw [List.foldl_cons]
    rcases List.mem_cons.mp hmem with rfl | hmem
    · rw [setting_foldl_of_not_mem honce.1, setting_set, if_pos rfl]
    · exact ih honce.2 hmem _

/-! ## Meaning -/

/-- No field is given twice. -/
def GivenOnce (members : List (String × Value)) : Prop :=
  ∀ field : Field, (members.map Prod.fst).count field.key ≤ 1

/-- A configuration has what the members give, and is the default one elsewhere. -/
structure Describes (members : List (String × Value)) (config : Config) : Prop where
  given : ∀ (field : Field) (value : Value), (field.key, value) ∈ members →
    field.setting? value = some (config.setting field)
  absent : ∀ field : Field, field.key ∉ members.map Prod.fst →
    config.setting field = ({} : Config).setting field

/-- The members that name a field. -/
def knownMembers (members : List (String × Value)) : List (String × Value) :=
  members.filter fun member => (Field.ofKey? member.1).isSome

theorem count_namedFields (members : List (String × Value)) (field : Field) :
    (namedFields members).count field = (members.map Prod.fst).count field.key := by
  induction members with
  | nil => rfl
  | cons member members ih =>
    rw [namedFields_cons, List.count_append, ih, List.map_cons, List.count_cons]
    by_cases hname : member.1 = field.key
    · rw [Field.ofKey?_eq_some_iff.mpr hname]
      simp [hname, Nat.add_comm]
    · have hother : (Field.ofKey? member.1).toList.count field = 0 := by
        rw [List.count_eq_zero, Option.mem_toList, Field.ofKey?_eq_some_iff]
        exact hname
      simp [hname, hother]

theorem nodup_namedFields_iff : (namedFields members).Nodup ↔ GivenOnce members := by
  simp only [List.nodup_iff_count_le_one, count_namedFields, GivenOnce]

theorem map_field_settingsOf (htyped : WellTyped members) :
    (settingsOf members).map Setting.field = namedFields members := by
  induction members with
  | nil => rfl
  | cons member members ih =>
    rw [settingsOf_cons, namedFields_cons, List.map_append, htyped.map_field, ih htyped.tail]

theorem mem_namedFields {field : Field} :
    field ∈ namedFields members ↔ field.key ∈ members.map Prod.fst := by
  simp only [namedFields, List.mem_filterMap, Field.ofKey?_eq_some_iff, List.mem_map]

/-- What the reader takes from the members is what they mean. -/
theorem describes_ofSettings (htyped : WellTyped members) (honce : GivenOnce members) :
    Describes members (ofSettings (settingsOf members)) := by
  rw [← nodup_namedFields_iff, ← map_field_settingsOf htyped] at honce
  constructor
  · intro field value hmem
    obtain ⟨setting, hsetting⟩ := Option.isSome_iff_exists.mp (htyped field value hmem)
    have htaken : setting ∈ settingsOf members := by
      refine List.mem_filterMap.mpr ⟨_, hmem, ?_⟩
      simp only [memberSetting?, Field.ofKey?_eq_some_iff.mpr rfl]
      exact hsetting
    rw [hsetting, ofSettings, ← Field.field_of_setting? hsetting,
      setting_foldl_of_mem honce htaken]
  · intro field habsent
    rw [← mem_namedFields, ← map_field_settingsOf htyped] at habsent
    exact setting_foldl_of_not_mem habsent _

/-- Members describe one configuration only. -/
theorem Describes.unique {other : Config} (h : Describes members config)
    (h' : Describes members other) : config = other := by
  refine eq_of_setting fun field => ?_
  by_cases hgiven : field.key ∈ members.map Prod.fst
  · obtain ⟨⟨_, value⟩, hmem, rfl⟩ := List.mem_map.mp hgiven
    exact Option.some.inj ((h.given field value hmem).symm.trans (h'.given field value hmem))
  · rw [h.absent field hgiven, h'.absent field hgiven]

/-! ## Order and further members -/

theorem mem_knownMembers {field : Field} {value : Value} :
    (field.key, value) ∈ knownMembers members ↔ (field.key, value) ∈ members := by
  have hknown : (Field.ofKey? field.key).isSome = true :=
    Option.isSome_iff_exists.mpr ⟨field, Field.ofKey?_eq_some_iff.mpr rfl⟩
  simp [knownMembers, hknown]

theorem namedFields_knownMembers (members : List (String × Value)) :
    namedFields (knownMembers members) = namedFields members := by
  rw [namedFields, knownMembers, List.filterMap_filter]
  refine List.filterMap_congr fun member _ => ?_
  cases Field.ofKey? member.1 <;> rfl

section Permuted

variable (hperm : (knownMembers others).Perm (knownMembers members))

include hperm

theorem mem_iff_of_perm {field : Field} {value : Value} :
    (field.key, value) ∈ others ↔ (field.key, value) ∈ members := by
  rw [← mem_knownMembers, hperm.mem_iff, mem_knownMembers]

theorem WellTyped.of_perm (htyped : WellTyped members) : WellTyped others :=
  fun field value hmem => htyped field value ((mem_iff_of_perm hperm).mp hmem)

theorem GivenOnce.of_perm (honce : GivenOnce members) : GivenOnce others := by
  rw [← nodup_namedFields_iff, ← namedFields_knownMembers] at honce ⊢
  exact (hperm.filterMap _).nodup_iff.mpr honce

theorem Describes.of_perm (h : Describes members config) : Describes others config := by
  constructor
  · exact fun field value hmem => h.given field value ((mem_iff_of_perm hperm).mp hmem)
  · intro field habsent
    refine h.absent field fun hmem => habsent ?_
    rw [← mem_namedFields, ← namedFields_knownMembers] at hmem ⊢
    exact (hperm.filterMap _).mem_iff.mpr hmem

end Permuted

/-! ## Whole texts -/

theorem parse_of_describes {text : String} (hdocument : Document text.toList (.object members))
    (htyped : WellTyped members) (honce : GivenOnce members)
    (hdescribes : Describes members config) :
    parse text = match config.validate with
      | .error cause => .error (.invalid cause)
      | .ok () => .ok config := by
  have hsettings := readSettings_of_document hdocument htyped (nodup_namedFields_iff.mpr honce)
  have hconfig := (describes_ofSettings htyped honce).unique hdescribes
  cases hvalid : config.validate with
  | error cause => simp only [parse, hsettings, hconfig, hvalid]
  | ok _ => simp only [parse, hsettings, hconfig, hvalid]

/-- What becomes of an object text: with well-typed members of which none gives a field twice, the
configuration that they describe if it is valid, and a configuration error otherwise; the same for
every other text whose known members are the same in any order; a configuration error if some field
is given twice, whatever the values are. -/
theorem parse_of_document {text : String} (hdocument : Document text.toList (.object members)) :
    (WellTyped members → GivenOnce members →
      (∃ config, Describes members config ∧ (config.Valid → parse text = .ok config) ∧
        (¬config.Valid → ∃ error, parse text = .error error ∧ error.failure.kind = .config)) ∧
      ∀ (other : String) (others : List (String × Value)),
        Document other.toList (.object others) →
          (knownMembers others).Perm (knownMembers members) → parse other = parse text) ∧
    (¬GivenOnce members → ∃ error, parse text = .error error ∧ error.failure.kind = .config) := by
  refine ⟨fun htyped honce => ?_, fun htwice => ?_⟩
  · have hdescribes := describes_ofSettings htyped honce
    have hparse := parse_of_describes hdocument htyped honce hdescribes
    refine ⟨⟨_, hdescribes, fun hvalid => ?_, fun hinvalid => ?_⟩,
      fun other others hother hperm => ?_⟩
    · rw [hparse, (validate_eq_ok_iff _).mpr hvalid]
    · rw [← validate_eq_ok_iff] at hinvalid
      split at hparse
      · exact ⟨_, hparse, rfl⟩
      · rename_i hok
        exact absurd hok hinvalid
    · rw [hparse]
      exact parse_of_describes hother (htyped.of_perm hperm) (honce.of_perm hperm)
        (hdescribes.of_perm hperm)
  · cases hsettings : readSettings text.toList with
    | error problem =>
      exact ⟨.malformed problem text.toList, by simp only [parse, hsettings], rfl⟩
    | ok settings =>
      exact absurd (nodup_namedFields_iff.mp (nodup_of_readSettings hdocument hsettings)) htwice

/-- An object with a field under an escaped name, behind a member that names none. -/
theorem parse_of_document_with_escaped_name :
    Document "\x7b \"x\" : [null],\n\"\\u0044ebug\":true\x7d".toList
        (.object [("x", .list [.null]), ("Debug", .boolean true)]) ∧
      parse "\x7b \"x\" : [null],\n\"\\u0044ebug\":true\x7d" = .ok { debug := true } := by
  -- the two names, the second one with its first letter escaped
  have hx : ∀ rest, StringText ('x' :: '"' :: rest) "x".toList rest := fun rest =>
    .char (.plain (by decide) (by decide) (by decide)) .close
  have hdebug : ∀ rest, StringText
      ('\\' :: 'u' :: '0' :: '0' :: '4' :: '4' :: 'e' :: 'b' :: 'u' :: 'g' :: '"' :: rest)
      "Debug".toList rest := by
    intro rest
    have hunit : HexText ('0' :: '0' :: '4' :: '4' :: 'e' :: 'b' :: 'u' :: 'g' :: '"' :: rest)
        (4096 * 0 + 256 * 0 + 16 * 4 + 4) ('e' :: 'b' :: 'u' :: 'g' :: '"' :: rest) :=
      .digits ⟨by decide, .inl rfl⟩ ⟨by decide, .inl rfl⟩ ⟨by decide, .inl rfl⟩
        ⟨by decide, .inl rfl⟩
    exact .char (.unit hunit) (.char (.plain (by decide) (by decide) (by decide))
      (.char (.plain (by decide) (by decide) (by decide))
        (.char (.plain (by decide) (by decide) (by decide))
          (.char (.plain (by decide) (by decide) (by decide)) .close))))
  have hdocument : Document "\x7b \"x\" : [null],\n\"\\u0044ebug\":true\x7d".toList
      (.object [("x", .list [.null]), ("Debug", .boolean true)]) :=
    .value .none
      (.object (.member
        (.quoted (.more (by decide) .none) (hx _) (.more (by decide) .none))
        (.more (by decide) .none) (.list (.lastElement .none .wordNull .none)) .none
        (.lastMember (.quoted (.more (by decide) .none) (hdebug _) .none) .none .wordTrue .none)))
      .none
  -- no field is called "x"
  have htyped : WellTyped [("x", .list [.null]), ("Debug", .boolean true)] := by
    intro field value hmem
    cases field <;> simp_all [Field.key, Field.setting?]
  have honce : GivenOnce [("x", .list [.null]), ("Debug", .boolean true)] := by
    intro field
    cases field <;> decide
  obtain ⟨⟨config, hdescribes, hvalid, -⟩, -⟩ := (parse_of_document hdocument).1 htyped honce
  have hconfig : config = { debug := true } := by
    refine eq_of_setting fun field => ?_
    cases field with
    | debug =>
      have hgiven := hdescribes.given .debug (.boolean true) (by simp [Field.key])
      exact (Option.some.inj hgiven).symm
    | _ => exact hdescribes.absent _ (by decide)
  subst hconfig
  exact ⟨hdocument, hvalid ⟨⟨24, rfl⟩, by decide, by decide⟩⟩

end PortKnock.Config
