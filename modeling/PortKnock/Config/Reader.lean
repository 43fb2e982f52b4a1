import PortKnock.Config.Basic
import PortKnock.Json.Ignored
import PortKnock.Json.Typed

/-!
# Reading configurations

A configuration text is a JSON object whose members may come in any order, with
unknown ones ignored, or a list of values for the fields in their order.  A
member that names a field twice is refused.  What is left out keeps its
default.
-/

namespace PortKnock.Config

open Json

/-! ## Values of the fields -/

/-- Reads the name of a capture mode, as a string or as the name of an object's only member. -/
def readModeName (text : List Char) : Scan CaptureMode :=
  match readText "variant identifier" text with
  | .error problem => .error problem
  | .ok (name, rest) =>
    match CaptureMode.ofKey? name with
    | some mode => .ok (mode, rest)
    | none =>
      .error (.here (.unknownVariant name CaptureMode.xdp.key CaptureMode.socket.key) rest)

/-- Reads the only member of an object that gives a capture mode, and the end of the object. -/
def readModeMember (text : List Char) : Scan CaptureMode :=
  match readModeName text with
  | .error problem => .error problem
  | .ok (mode, rest) =>
    match readColon rest with
    | .error problem => .error problem
    | .ok rest =>
      match readNull rest with
      | .error problem => .error problem
      | .ok rest =>
        match skipBlank rest with
        | [] => .error (.here .endInObject [])
        | '\x7d' :: rest => .ok (mode, rest)
        | rest => .error (.here .expectedValue rest)

/-- Reads the object form of a capture mode behind its bracket.  An object without members gives
no value. -/
def readModeObject (text : List Char) : Scan CaptureMode :=
  match skipBlank text with
  | [] => .error (.next .endInObject [])
  | '"' :: rest => readModeMember ('"' :: rest)
  | '\x7d' :: rest => .error (.next .expectedValue ('\x7d' :: rest))
  | rest => .error (.next .keyNotString rest)

/-- Reads a capture mode: its name, or an object whose only member has that name and the value
`null`. -/
def readMode (text : List Char) : Scan CaptureMode :=
  match skipBlank text with
  | [] => .error (.next .endInValue [])
  | '"' :: rest => readModeName ('"' :: rest)
  | '\x7b' :: rest => readModeObject rest
  | rest => .error (.next .expectedValue rest)

/-- Reads a value for a field. -/
def readSetting (field : Field) (text : List Char) : Scan Setting :=
  match field with
  | .networkInterface => (readText "a string" text).map fun (value, rest) =>
      (.networkInterface value, rest)
  | .captureMode => (readMode text).map fun (value, rest) => (.captureMode value, rest)
  | .bpfObjectPath => (readText? "path string" text).map fun (value, rest) =>
      (.bpfObjectPath value, rest)
  | .genericMode => (readBoolean text).map fun (value, rest) => (.genericMode value, rest)
  | .strictEtherType => (readBoolean text).map fun (value, rest) => (.strictEtherType value, rest)
  | .ringByteSize => (readCount text).map fun (value, rest) => (.ringByteSize value, rest)
  | .captureThreads => (readCount text).map fun (value, rest) => (.captureThreads value, rest)
  | .debug => (readBoolean text).map fun (value, rest) => (.debug value, rest)

theorem length_of_readModeName {text rest : List Char} {mode : CaptureMode}
    (h : readModeName text = .ok (mode, rest)) : rest.length < text.length := by
  unfold readModeName at h
  split at h
  · cases h
  · rename_i htext
    split at h
    · cases h
      exact length_of_readText htext
    · cases h

theorem length_of_readModeMember {text rest : List Char} {mode : CaptureMode}
    (h : readModeMember text = .ok (mode, rest)) : rest.length < text.length := by
  unfold readModeMember at h
  split at h
  · cases h
  · rename_i hname
    have := length_of_readModeName hname
    split at h
    · cases h
    · rename_i hcolon
      have := length_of_readColon hcolon
      split at h
      · cases h
      · rename_i hnull
        have := length_of_readNull hnull
        split at h
        · cases h
        · rename_i hblank
          cases h
          have := length_of_skipBlank hblank
          omega
        · cases h

theorem length_of_readModeObject {text rest : List Char} {mode : CaptureMode}
    (h : readModeObject text = .ok (mode, rest)) : rest.length < text.length := by
  have hle := length_skipBlank_le text
  unfold readModeObject at h
  split at h
  · cases h
  · rename_i hblank
    have := length_of_readModeMember h
    rw [hblank] at hle
    omega
  · cases h
  · cases h

theorem length_of_readMode {text rest : List Char} {mode : CaptureMode}
    (h : readMode text = .ok (mode, rest)) : rest.length < text.length := by
  have hle := length_skipBlank_le text
  unfold readMode at h
  split at h
  · cases h
  · rename_i hblank
    have := length_of_readModeName h
    rw [hblank] at hle
    omega
  · rename_i hblank
    have := length_of_readModeObject h
    rw [hblank, List.length_cons] at hle
    omega
  · cases h

/-- What was read was made of a value that was read. -/
theorem exists_of_map_eq_ok {α β : Type} {scan : Scan α} {f : α → β} {made : β}
    {rest : List Char} (h : (scan.map fun (value, rest) => (f value, rest)) = .ok (made, rest)) :
    ∃ value, scan = .ok (value, rest) ∧ made = f value := by
  cases scan with
  | error problem => cases h
  | ok result =>
    cases h
    exact ⟨_, rfl, rfl⟩

theorem length_of_readSetting {field : Field} {text rest : List Char} {setting : Setting}
    (h : readSetting field text = .ok (setting, rest)) : rest.length < text.length := by
  cases field with
  | networkInterface =>
    obtain ⟨_, hvalue, -⟩ := exists_of_map_eq_ok h
    exact length_of_readText hvalue
  | captureMode =>
    obtain ⟨_, hvalue, -⟩ := exists_of_map_eq_ok h
    exact length_of_readMode hvalue
  | bpfObjectPath =>
    obtain ⟨_, hvalue, -⟩ := exists_of_map_eq_ok h
    exact length_of_readText? hvalue
  | genericMode | strictEtherType | debug =>
    obtain ⟨_, hvalue, -⟩ := exists_of_map_eq_ok h
    exact length_of_readBoolean hvalue
  | ringByteSize | captureThreads =>
    obtain ⟨_, hvalue, -⟩ := exists_of_map_eq_ok h
    exact length_of_readCount hvalue

/-! ## Objects -/

/-- What is wrong with a second member for one field: noticed before its colon, or behind the
bracket of the object if that follows instead. -/
def duplicateProblem (field : Field) (text : List Char) : Problem :=
  match skipBlank text with
  | '\x7d' :: rest => .here (.duplicateField field.key) rest
  | rest => .here (.duplicateField field.key) rest

/-- Reads what a member gives behind its name: the settings given so far, with the one of this
member behind them if its name is that of a field. -/
def readMemberValue (given : List Setting) (name : String) (text : List Char) :
    Scan (List Setting) :=
  match Field.ofKey? name with
  | none =>
    match readColon text with
    | .error problem => .error problem
    | .ok rest => (skipValue [] rest).map fun rest => (given, rest)
  | some field =>
    if given.any (·.field = field) then .error (duplicateProblem field text)
    else
      match readColon text with
      | .error problem => .error problem
      | .ok rest => (readSetting field rest).map fun (setting, rest) => (given ++ [setting], rest)

theorem length_of_readMemberValue {given settings : List Setting} {name : String}
    {text rest : List Char} (h : readMemberValue given name text = .ok (settings, rest)) :
    rest.length < text.length := by
  unfold readMemberValue at h
  split at h
  · -- the value of an unknown member is skipped
    split at h
    · cases h
    · rename_i rest₁ hcolon
      have hlt := length_of_readColon hcolon
      cases hskip : skipValue [] rest₁ with
      | error problem => rw [hskip] at h; cases h
      | ok rest₂ =>
        rw [hskip] at h
        cases h
        have := length_of_skipValue hskip
        omega
  · -- the one of a field is read, unless the field has been given before
    split at h
    · cases h
    · split at h
      · cases h
      · rename_i field _ _ _ rest₁ hcolon
        have hlt := length_of_readColon hcolon
        obtain ⟨setting, hread, -⟩ := exists_of_map_eq_ok (f := fun setting => given ++ [setting]) h
        exact Nat.lt_trans (length_of_readSetting hread) hlt

/-- Reads members from behind the opening quote of a name up to the end of the object. -/
def readMembers (given : List Setting) (text : List Char) : Scan (List Setting) :=
  match _h : readString text with
  | .error problem => .error problem
  | .ok (name, rest) =>
    match _h' : readMemberValue given (String.ofList name) rest with
    | .error problem => .error problem
    | .ok (given, rest) =>
      match _h'' : skipBlank rest with
      | [] => .error (.next .endInObject [])
      | '\x7d' :: rest => .ok (given, rest)
      | ',' :: rest =>
        match _h''' : skipBlank rest with
        | [] => .error (.next .endInValue [])
        | '"' :: rest => readMembers given rest
        | '\x7d' :: rest => .error (.next .trailingComma ('\x7d' :: rest))
        | rest => .error (.next .keyNotString rest)
      | rest => .error (.next .expectedCommaOrObjectEnd rest)
  termination_by text.length
  decreasing_by
    have := length_of_readString _h
    have := length_of_readMemberValue _h'
    have := length_of_skipBlank _h''
    have := length_of_skipBlank _h'''
    omega

/-- Reads an object behind its bracket. -/
def readObject (text : List Char) : Scan (List Setting) :=
  match skipBlank text with
  | [] => .error (.next .endInObject [])
  | '\x7d' :: rest => .ok ([], rest)
  | '"' :: rest => readMembers [] rest
  | rest => .error (.next .keyNotString rest)

/-! ## Lists -/

/-- Finds the end of a list behind a value for every field. -/
def readListEnd (text : List Char) : Except Problem (List Char) :=
  match skipBlank text with
  | [] => .error (.next .endInList [])
  | ']' :: rest => .ok rest
  | ',' :: rest =>
    match skipBlank rest with
    | ']' :: rest => .error (.next .trailingComma (']' :: rest))
    | rest => .error (.next .trailingCharacters rest)
  | rest => .error (.next .trailingCharacters rest)

/-- Reads values for `fields` behind a comma. -/
def readElements (given : List Setting) : (fields : List Field) → (text : List Char) →
    Scan (List Setting)
  | [], text => (readListEnd text).map fun rest => (given, rest)
  | field :: fields, text =>
    match skipBlank text with
    | [] => .error (.next .endInList [])
    | ']' :: rest => .ok (given, rest)
    | ',' :: rest =>
      match skipBlank rest with
      | [] => .error (.next .endInValue [])
      | ']' :: rest => .error (.next .trailingComma (']' :: rest))
      | rest =>
        match readSetting field rest with
        | .error problem => .error problem
        | .ok (setting, rest) => readElements (given ++ [setting]) fields rest
    | rest => .error (.next .expectedCommaOrListEnd rest)

/-- Reads a list of values for the fields in their order, behind its bracket. -/
def readList (text : List Char) : Scan (List Setting) :=
  match skipBlank text with
  | [] => .error (.next .endInList [])
  | ']' :: rest => .ok ([], rest)
  | rest =>
    match readSetting .networkInterface rest with
    | .error problem => .error problem
    | .ok (setting, rest) => readElements [setting] (Field.all.drop 1) rest

/-! ## Texts -/

/-- Reads an object or a list at the start of a text. -/
def readDocument (text : List Char) : Scan (List Setting) :=
  match skipBlank text with
  | [] => .error (.next .endInValue [])
  | '\x7b' :: rest => readObject rest
  | '[' :: rest => readList rest
  | rest => .error (mismatch "struct GivenConfig" rest)

/-- The settings of a text that holds an object or a list and nothing else. -/
def readSettings (text : List Char) : Except Problem (List Setting) :=
  match readDocument text with
  | .error problem => .error problem
  | .ok (settings, rest) =>
    match skipBlank rest with
    | [] => .ok settings
    | rest => .error (.next .trailingCharacters rest)

/-- Why a text is no configuration. -/
inductive ParseError
  /-- It is not of the form; the problem is one of the given text. -/
  | malformed (problem : Problem) (text : List Char)
  | invalid (cause : Invalid)

def ParseError.message : ParseError → String
  | malformed problem text => "malformed config json: " ++ problem.message text
  | invalid cause => cause.message

def ParseError.failure (error : ParseError) : Failure :=
  ⟨.config, error.message⟩

/-- The configuration that a text describes. -/
def parse (text : String) : Except ParseError Config :=
  match readSettings text.toList with
  | .error problem => .error (.malformed problem text.toList)
  | .ok settings =>
    let config := ofSettings settings
    match config.validate with
    | .error cause => .error (.invalid cause)
    | .ok () => .ok config

end PortKnock.Config
