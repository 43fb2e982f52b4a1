import PortKnock.Proofs.Config.Values

/-!
# Reading the members of an object

One member contributes at most one setting (`memberSetting?`), and the reader
goes through the members from the first to the last.  Each step is stated
twice: a member of a field's type adds its setting, and whatever a member's
value is, a step that succeeds has left the whole value behind and has refused
a field that was given before.  The first gives what the members of a proper
object mean, the second that no object gets through in which a field is named
twice.
-/

namespace PortKnock.Config

open Json

variable {text before rest stop : List Char} {value : Value} {given settings : List Setting}
  {members : List (String × Value)}

/-! ## What members say -/

theorem Field.ofKey?_eq_some_iff {name : String} {field : Field} :
    Field.ofKey? name = some field ↔ name = field.key := by
  constructor
  · intro h
    have hkey := List.find?_some h
    exact (eq_of_beq hkey).symm
  · rintro rfl
    cases field <;> rfl

theorem Field.key_injective {field other : Field} (h : field.key = other.key) : field = other :=
  Option.some.inj ((Field.ofKey?_eq_some_iff.mpr rfl).symm.trans (Field.ofKey?_eq_some_iff.mpr h))

/-- The setting of a member, if it names a field and has a value for it. -/
def memberSetting? (member : String × Value) : Option Setting :=
  (Field.ofKey? member.1).bind fun field => field.setting? member.2

/-- The settings of all members, in their order. -/
def settingsOf (members : List (String × Value)) : List Setting :=
  members.filterMap memberSetting?

/-- The fields that members name, in their order. -/
def namedFields (members : List (String × Value)) : List Field :=
  members.filterMap fun member => Field.ofKey? member.1

/-- Every member that names a field has a value of its type. -/
def WellTyped (members : List (String × Value)) : Prop :=
  ∀ (field : Field) (value : Value), (field.key, value) ∈ members → (field.setting? value).isSome

theorem settingsOf_cons (member : String × Value) (members : List (String × Value)) :
    settingsOf (member :: members) = (memberSetting? member).toList ++ settingsOf members := by
  rw [settingsOf, List.filterMap_cons]
  cases memberSetting? member <;> rfl

theorem namedFields_cons (member : String × Value) (members : List (String × Value)) :
    namedFields (member :: members) = (Field.ofKey? member.1).toList ++ namedFields members := by
  rw [namedFields, List.filterMap_cons]
  cases Field.ofKey? member.1 <;> rfl

theorem WellTyped.tail {member : String × Value} (htyped : WellTyped (member :: members)) :
    WellTyped members :=
  fun field value hmem => htyped field value (List.mem_cons_of_mem _ hmem)

/-- A well-typed member sets the field that it names. -/
theorem WellTyped.map_field {member : String × Value} (htyped : WellTyped (member :: members)) :
    (memberSetting? member).toList.map Setting.field = (Field.ofKey? member.1).toList := by
  unfold memberSetting?
  cases hfield : Field.ofKey? member.1 with
  | none => rfl
  | some field =>
    have hkey := Field.ofKey?_eq_some_iff.mp hfield
    obtain ⟨setting, hsetting⟩ := Option.isSome_iff_exists.mp
      (htyped field member.2 (by rw [← hkey]; exact List.mem_cons_self))
    simp [hsetting, Field.field_of_setting? hsetting]

/-! ## One member -/

theorem readMemberValue_of_wellTyped {name : String} {named behind : List Char}
    (hcolon : Blanks named (':' :: behind)) (hbefore : Blanks behind text)
    (hvalue : Written text (.value value) rest) (hend : EndsNumber rest)
    (htyped : WellTyped ((name, value) :: members))
    (honce : (given.map Setting.field ++ namedFields ((name, value) :: members)).Nodup) :
    readMemberValue given name named =
      .ok (given ++ (memberSetting? (name, value)).toList, rest) := by
  rw [namedFields_cons] at honce
  unfold readMemberValue memberSetting?
  cases hfield : Field.ofKey? name with
  | none =>
    simp only [readColon_of_blanks hcolon, skipValue_of_written hbefore hvalue hend]
    simp [Except.map]
  | some field =>
    have hkey := Field.ofKey?_eq_some_iff.mp hfield
    obtain ⟨setting, hsetting⟩ := Option.isSome_iff_exists.mp
      (htyped field value (by rw [← hkey]; exact List.mem_cons_self))
    have hread := readSetting_of_setting? hbefore hvalue hend hsetting
    have hany : (given.any fun setting => decide (setting.field = field)) = false := by
      simp only [hfield, Option.toList_some, List.cons_append, List.nil_append,
        List.nodup_append, List.mem_cons] at honce
      rw [List.any_eq_false]
      intro setting hmem
      simpa using honce.2.2 _ (List.mem_map_of_mem hmem) field (Or.inl rfl)
    simp only [hany, readColon_of_blanks hcolon, hread]
    simp [Except.map, hsetting]

/-- Whatever the value is, a member that is taken names no field that was given, and it is left
behind as a whole. -/
theorem eq_of_readMemberValue {name : String} {named behind : List Char}
    (hcolon : Blanks named (':' :: behind)) (hbefore : Blanks behind text)
    (hvalue : Written text (.value value) rest) (hend : EndsNumber rest)
    (hgiven : (given.map Setting.field).Nodup)
    (h : readMemberValue given name named = .ok (settings, stop)) :
    settings.map Setting.field = given.map Setting.field ++ (Field.ofKey? name).toList ∧
      (settings.map Setting.field).Nodup ∧ stop = rest := by
  unfold readMemberValue at h
  cases hfield : Field.ofKey? name with
  | none =>
    simp only [hfield, readColon_of_blanks hcolon, skipValue_of_written hbefore hvalue hend] at h
    cases h
    simpa using hgiven
  | some field =>
    simp only [hfield, readColon_of_blanks hcolon] at h
    split at h
    · cases h
    · rename_i hfresh
      cases hread : readSetting field behind with
      | error problem => simp [hread, Except.map] at h
      | ok result =>
        obtain ⟨setting, behind'⟩ := result
        rw [hread] at h
        cases h
        obtain ⟨rfl, rfl⟩ := eq_of_readSetting hbefore hvalue hend hread
        refine ⟨by simp, ?_, rfl⟩
        rw [List.map_append, List.nodup_append]
        simp_all

/-! ## All members -/

/-- What is left to do behind the value of a member. -/
def behindMember (given : List Setting) (text : List Char) : Scan (List Setting) :=
  match skipBlank text with
  | [] => .error (.next .endInObject [])
  | '\x7d' :: rest => .ok (given, rest)
  | ',' :: rest =>
    match skipBlank rest with
    | [] => .error (.next .endInValue [])
    | '"' :: rest => readMembers given rest
    | '\x7d' :: rest => .error (.next .trailingComma ('\x7d' :: rest))
    | rest => .error (.next .keyNotString rest)
  | rest => .error (.next .expectedCommaOrObjectEnd rest)

theorem behindMember_of_end (hend : Blanks text ('\x7d' :: rest)) :
    behindMember given text = .ok (given, rest) := by
  simp only [behindMember, skipBlank_eq_cons hend rfl]

theorem behindMember_of_comma {more opened : List Char} (hcomma : Blanks text (',' :: more))
    (hopened : skipBlank more = '"' :: opened) :
    behindMember given text = readMembers given opened := by
  simp only [behindMember, skipBlank_eq_cons hcomma rfl, hopened]

/-- The reader of members, a member at a time. -/
theorem readMembers_eq (given : List Setting) (text : List Char) :
    readMembers given text = match readString text with
      | .error problem => .error problem
      | .ok (name, rest) =>
        match readMemberValue given (String.ofList name) rest with
        | .error problem => .error problem
        | .ok (given, rest) => behindMember given rest := by
  rw [readMembers]
  simp only [behindMember]
  split
  · simp_all only
  · simp_all only
    split
    · simp_all only
    · simp_all only
      split <;> simp_all
      split <;> simp_all

/-- What stands behind the name of a member is up to its value. -/
theorem readMembers_of_nameText {name : String} {opened behind : List Char}
    (hopened : skipBlank before = '"' :: opened) (hname : NameText before name behind) :
    ∃ named, Blanks named (':' :: behind) ∧ ∀ given, readMembers given opened =
      match readMemberValue given name named with
      | .error problem => .error problem
      | .ok (given, rest) => behindMember given rest := by
  cases hname with
  | quoted hquote hstring hcolon =>
    rw [skipBlank_eq_cons hquote rfl] at hopened
    cases hopened
    refine ⟨_, hcolon, fun given => ?_⟩
    rw [readMembers_eq, readString_of_stringText hstring]
    simp only [String.ofList_toList]

/-- Members of their fields' types are all taken, if no field is given twice. -/
theorem readMembers_of_wellTyped {opened : List Char} (hopened : skipBlank before = '"' :: opened)
    (hmembers : Written before (.members members) rest) (htyped : WellTyped members)
    (honce : (given.map Setting.field ++ namedFields members).Nodup) :
    readMembers given opened = .ok (given ++ settingsOf members, rest) := by
  induction members generalizing before given opened with
  | nil => cases hmembers
  | cons member members ih =>
    cases hmembers with
    | lastMember hname hbefore hvalue hend =>
      obtain ⟨named, hcolon, hread⟩ := readMembers_of_nameText hopened hname
      have htaken := readMemberValue_of_wellTyped hcolon hbefore hvalue
        (.of_blanks (by simp) hend) htyped honce
      simp only [hread, htaken, behindMember_of_end hend, settingsOf_cons]
      simp [settingsOf]
    | member hname hbefore hvalue hcomma hmore =>
      obtain ⟨named, hcolon, hread⟩ := readMembers_of_nameText hopened hname
      have htaken := readMemberValue_of_wellTyped hcolon hbefore hvalue
        (.of_blanks (by simp) hcomma) htyped honce
      obtain ⟨opened', hopened'⟩ := hmore.skipBlank_of_members
      simp only [hread, htaken, behindMember_of_comma hcomma hopened']
      rw [ih hopened' hmore htyped.tail, settingsOf_cons, List.append_assoc]
      rwa [List.map_append, htyped.map_field, List.append_assoc, ← namedFields_cons]

/-- Whatever their values are, members are only read to their end if no field is given twice. -/
theorem nodup_of_readMembers {opened : List Char} (hopened : skipBlank before = '"' :: opened)
    (hmembers : Written before (.members members) rest)
    (hgiven : (given.map Setting.field).Nodup)
    (h : readMembers given opened = .ok (settings, stop)) :
    (given.map Setting.field ++ namedFields members).Nodup := by
  induction members generalizing before given opened with
  | nil => cases hmembers
  | cons member members ih =>
    cases hmembers with
    | lastMember hname hbefore hvalue hend =>
      obtain ⟨named, hcolon, hread⟩ := readMembers_of_nameText hopened hname
      rw [hread] at h
      split at h
      · cases h
      · -- the member has been taken, so its field had not been given before
        rename_i htaken
        obtain ⟨hfields, honce, -⟩ := eq_of_readMemberValue hcolon hbefore hvalue
          (.of_blanks (by simp) hend) hgiven htaken
        rw [namedFields_cons, namedFields, List.filterMap_nil, List.append_nil, ← hfields]
        exact honce
    | member hname hbefore hvalue hcomma hmore =>
      obtain ⟨named, hcolon, hread⟩ := readMembers_of_nameText hopened hname
      rw [hread] at h
      split at h
      · cases h
      · rename_i htaken
        obtain ⟨hfields, honce, rfl⟩ := eq_of_readMemberValue hcolon hbefore hvalue
          (.of_blanks (by simp) hcomma) hgiven htaken
        obtain ⟨opened', hopened'⟩ := hmore.skipBlank_of_members
        rw [behindMember_of_comma hcomma hopened'] at h
        have hrest := ih hopened' hmore honce h
        rw [namedFields_cons, ← List.append_assoc, ← hfields]
        exact hrest

/-! ## Whole texts -/

theorem readSettings_of_document (hdocument : Document text (.object members))
    (htyped : WellTyped members) (honce : (namedFields members).Nodup) :
    readSettings text = .ok (settingsOf members) := by
  obtain ⟨hbefore, hvalue, hend⟩ := hdocument
  have hfinish : ∀ closed, Blanks closed [] → skipBlank closed = [] :=
    fun closed hclosed => skipBlank_of_blanks hclosed
  cases hvalue with
  | emptyObject hempty =>
    simp only [readSettings, readDocument, skipBlank_eq_cons hbefore rfl, readObject,
      skipBlank_eq_cons hempty rfl, hfinish _ hend]
    rfl
  | object hmembers =>
    obtain ⟨opened, hopened⟩ := hmembers.skipBlank_of_members
    have hread : readMembers [] opened = .ok ([] ++ settingsOf members, _) :=
      readMembers_of_wellTyped hopened hmembers htyped honce
    simp only [readSettings, readDocument, skipBlank_eq_cons hbefore rfl, readObject, hopened,
      hread, hfinish _ hend]
    rfl

theorem nodup_of_readSettings (hdocument : Document text (.object members))
    (h : readSettings text = .ok settings) : (namedFields members).Nodup := by
  obtain ⟨hbefore, hvalue, hend⟩ := hdocument
  cases hvalue with
  | emptyObject hempty => exact List.nodup_nil
  | object hmembers =>
    obtain ⟨opened, hopened⟩ := hmembers.skipBlank_of_members
    simp only [readSettings, readDocument, skipBlank_eq_cons hbefore rfl, readObject, hopened] at h
    split at h
    · cases h
    · rename_i hread
      have hnodup : (List.map Setting.field [] ++ namedFields members).Nodup :=
        nodup_of_readMembers hopened hmembers List.nodup_nil hread
      exact hnodup

end PortKnock.Config
