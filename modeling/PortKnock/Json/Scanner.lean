import PortKnock.Json.Problem

/-!
# Blanks, words and strings

The pieces of a JSON text below its values.  Every scanner takes the rest of
the text and answers with what is left behind the piece, never more than there
was (`length_skipBlank_le`, `length_of_readWord`, `length_of_readString`, …), so
that readers built from them come to an end.

A string is read in two ways: `readString` yields its characters and pairs
surrogates, `skipString` only finds its end and does not look at surrogates.
-/

namespace PortKnock.Json

/-- What a scanner answers: a value and the rest of the text. -/
abbrev Scan (α : Type) := Except Problem (α × List Char)

/-! ## Blanks -/

def isBlank (c : Char) : Bool :=
  c == ' ' || c == '\t' || c == '\n' || c == '\r'

def skipBlank (text : List Char) : List Char :=
  text.dropWhile isBlank

theorem length_skipBlank_le (text : List Char) : (skipBlank text).length ≤ text.length := by
  induction text with
  | nil => exact Nat.le_refl _
  | cons c rest ih =>
    unfold skipBlank at ih ⊢
    rw [List.dropWhile_cons]
    split
    · exact Nat.le_succ_of_le ih
    · exact Nat.le_refl _

theorem length_of_skipBlank {text rest : List Char} {c : Char} (h : skipBlank text = c :: rest) :
    rest.length < text.length := by
  have := length_skipBlank_le text
  rw [h, List.length_cons] at this
  omega

/-! ## Words -/

/-- Reads the remaining letters of `null`, `true` or `false`. -/
def readWord : (word text : List Char) → Except Problem (List Char)
  | [], rest => .ok rest
  | _ :: _, [] => .error (.here .endInValue [])
  | letter :: word, c :: rest =>
    if c = letter then readWord word rest else .error (.next .expectedIdent (c :: rest))

theorem length_of_readWord {word text rest : List Char} (h : readWord word text = .ok rest) :
    rest.length ≤ text.length := by
  induction word generalizing text with
  | nil =>
    cases text <;> (cases h; exact Nat.le_refl _)
  | cons letter word ih =>
    cases text with
    | nil => cases h
    | cons c text =>
      unfold readWord at h
      split at h
      · exact Nat.le_succ_of_le (ih h)
      · cases h

/-! ## Escapes -/

def hexValue? (c : Char) : Option Nat :=
  if c.isDigit then some (c.toNat - '0'.toNat)
  else if 'a' ≤ c ∧ c ≤ 'f' then some (c.toNat - 'a'.toNat + 10)
  else if 'A' ≤ c ∧ c ≤ 'F' then some (c.toNat - 'A'.toNat + 10)
  else none

/-- The number that four hexadecimal digits spell. -/
def hexValue4? (a b c d : Char) : Option Nat := do
  return 4096 * (← hexValue? a) + 256 * (← hexValue? b) + 16 * (← hexValue? c) + (← hexValue? d)

/-- What is wrong where four hexadecimal digits are missing: four octets are looked at, if the
text has as many. -/
def hexProblem (text : List Char) : Problem :=
  if octetCount text < 4 then ⟨.endInString, 0⟩ else ⟨.invalidEscape, octetCount text - 4⟩

/-- Reads four hexadecimal digits. -/
def readHex : (text : List Char) → Scan Nat
  | a :: b :: c :: d :: rest =>
    match hexValue4? a b c d with
    | some value => .ok (value, rest)
    | none => .error (hexProblem (a :: b :: c :: d :: rest))
  | text => .error (hexProblem text)

theorem length_of_readHex {text rest : List Char} {value : Nat}
    (h : readHex text = .ok (value, rest)) : rest.length < text.length := by
  unfold readHex at h
  split at h
  · split at h
    · cases h
      simp only [List.length_cons]
      omega
    · cases h
  · cases h

/-- The character that a letter behind a backslash stands for. -/
def simpleEscape? : Char → Option Char
  | '"' => some '"'
  | '\\' => some '\\'
  | '/' => some '/'
  | 'b' => some '\x08'
  | 'f' => some '\x0c'
  | 'n' => some '\n'
  | 'r' => some '\r'
  | 't' => some '\t'
  | _ => none

def isLeadingSurrogate (unit : Nat) : Bool := 0xd800 ≤ unit && unit ≤ 0xdbff

def isTrailingSurrogate (unit : Nat) : Bool := 0xdc00 ≤ unit && unit ≤ 0xdfff

/-- The code point that a pair of surrogates stands for. -/
def ofSurrogates (leading trailing : Nat) : Nat :=
  0x10000 + 0x400 * (leading - 0xd800) + (trailing - 0xdc00)

/-- Reads the escape that has to follow a leading surrogate. -/
def readTrailing (leading : Nat) : (text : List Char) → Scan Char
  | [] => .error (.here .endInString [])
  | ['\\'] => .error (.here .endInString [])
  | '\\' :: 'u' :: rest =>
    match readHex rest with
    | .error problem => .error problem
    | .ok (unit, rest) =>
      if isTrailingSurrogate unit then .ok (Char.ofNat (ofSurrogates leading unit), rest)
      else .error (.here .loneSurrogate rest)
  | '\\' :: rest => .error (.next .endOfEscape rest)
  | rest => .error (.next .endOfEscape rest)

theorem length_of_readTrailing {leading : Nat} {text rest : List Char} {c : Char}
    (h : readTrailing leading text = .ok (c, rest)) : rest.length < text.length := by
  unfold readTrailing at h
  split at h
  · cases h
  · cases h
  · split at h
    · cases h
    · rename_i unit rest' hhex
      split at h
      · simp only [Except.ok.injEq, Prod.mk.injEq] at h
        have := length_of_readHex hhex
        simp only [← h.2, List.length_cons]
        omega
      · cases h
  · cases h
  · cases h

/-- Reads what follows a backslash. -/
def readEscape : (text : List Char) → Scan Char
  | [] => .error (.here .endInString [])
  | 'u' :: rest =>
    match readHex rest with
    | .error problem => .error problem
    | .ok (unit, rest) =>
      if isTrailingSurrogate unit then .error (.here .loneSurrogate rest)
      else if isLeadingSurrogate unit then readTrailing unit rest
      else .ok (Char.ofNat unit, rest)
  | c :: rest =>
    match simpleEscape? c with
    | some c => .ok (c, rest)
    | none => .error (.next .invalidEscape (c :: rest))

theorem length_of_readEscape {text rest : List Char} {c : Char}
    (h : readEscape text = .ok (c, rest)) : rest.length < text.length := by
  unfold readEscape at h
  split at h
  · cases h
  · split at h
    · cases h
    · rename_i unit rest' hhex
      have hlt := length_of_readHex hhex
      simp only [List.length_cons]
      split at h
      · cases h
      · split at h
        · have := length_of_readTrailing h
          omega
        · simp only [Except.ok.injEq, Prod.mk.injEq] at h
          simp only [← h.2]
          omega
  · split at h
    · cases h
      exact Nat.lt_succ_self _
    · cases h

/-- Finds the end of what follows a backslash. -/
def skipEscape : (text : List Char) → Except Problem (List Char)
  | [] => .error (.here .endInString [])
  | 'u' :: rest =>
    match readHex rest with
    | .error problem => .error problem
    | .ok (_, rest) => .ok rest
  | c :: rest =>
    match simpleEscape? c with
    | some _ => .ok rest
    | none => .error (.next .invalidEscape (c :: rest))

theorem length_of_skipEscape {text rest : List Char} (h : skipEscape text = .ok rest) :
    rest.length < text.length := by
  unfold skipEscape at h
  split at h
  · cases h
  · split at h
    · cases h
    · rename_i unit rest' hhex
      cases h
      have := length_of_readHex hhex
      simp only [List.length_cons]
      omega
  · split at h
    · cases h
      exact Nat.lt_succ_self _
    · cases h

/-! ## Strings -/

/-- Whether a character may not stand in a string as it is. -/
def isControl (c : Char) : Bool :=
  c.toNat < 0x20

/-- Reads the characters of a string behind its opening quote. -/
def readString (text : List Char) : Scan (List Char) :=
  match text with
  | [] => .error (.here .endInString [])
  | '"' :: rest => .ok ([], rest)
  | '\\' :: rest =>
    match _h : readEscape rest with
    | .error problem => .error problem
    | .ok (c, rest) =>
      match readString rest with
      | .error problem => .error problem
      | .ok (cs, rest) => .ok (c :: cs, rest)
  | c :: rest =>
    if isControl c then .error (.next .controlCharacter (c :: rest))
    else
      match readString rest with
      | .error problem => .error problem
      | .ok (cs, rest) => .ok (c :: cs, rest)
  termination_by text.length
  decreasing_by
    all_goals simp only [List.length_cons]
    · exact Nat.lt_succ_of_lt (length_of_readEscape _h)
    · exact Nat.lt_succ_self _

/-- Finds the end of a string behind its opening quote. -/
def skipString (text : List Char) : Except Problem (List Char) :=
  match text with
  | [] => .error (.here .endInString [])
  | '"' :: rest => .ok rest
  | '\\' :: rest =>
    match _h : skipEscape rest with
    | .error problem => .error problem
    | .ok rest => skipString rest
  | c :: rest =>
    if isControl c then .error (.here .controlCharacter (c :: rest)) else skipString rest
  termination_by text.length
  decreasing_by
    all_goals simp only [List.length_cons]
    · exact Nat.lt_succ_of_lt (length_of_skipEscape _h)
    · exact Nat.lt_succ_self _

theorem length_of_readString {text cs rest : List Char}
    (h : readString text = .ok (cs, rest)) : rest.length < text.length := by
  fun_induction readString text generalizing cs with
  | case1 => cases h
  | case2 => cases h; exact Nat.lt_succ_self _
  | case3 => cases h
  | case4 => cases h
  | case5 rest₁ c rest₂ hesc cs₂ rest₃ hstr ih =>
    cases h
    have hlt := length_of_readEscape hesc
    have := ih hstr
    simp only [List.length_cons]
    omega
  | case6 => cases h
  | case7 => cases h
  | case8 c rest₁ _ _ hctl cs₂ rest₃ hstr ih =>
    cases h
    have := ih hstr
    simp only [List.length_cons]
    omega

theorem length_of_skipString {text rest : List Char} (h : skipString text = .ok rest) :
    rest.length < text.length := by
  fun_induction skipString text with
  | case1 => cases h
  | case2 => cases h; exact Nat.lt_succ_self _
  | case3 => cases h
  | case4 rest₁ rest₂ hesc ih =>
    have hlt := length_of_skipEscape hesc
    have := ih h
    simp only [List.length_cons]
    omega
  | case5 => cases h
  | case6 c rest₁ _ _ hctl ih =>
    have := ih h
    simp only [List.length_cons]
    omega

end PortKnock.Json
