import PortKnock.Json.Number

/-!
# Values that are ignored

A value nobody asked for is only checked for its form.  It may nest to any
depth, so the containers that are still open are kept in a list, innermost
first: `skipValue` expects a value inside of them, `skipBehind` what may follow
one.  Each of their tokens takes something off the text (`Leaves.bind`), so both
only shorten it (`leaves_skip`).
-/

namespace PortKnock.Json

/-- A container that is still open. -/
inductive Container
  | list
  | object
  deriving DecidableEq, Repr

/-- Finds the end of the text `name` and colon in front of a member's value. -/
def skipName (text : List Char) : Except Problem (List Char) :=
  match skipBlank text with
  | [] => .error (.next .endInObject [])
  | '"' :: rest =>
    match skipString rest with
    | .error problem => .error problem
    | .ok rest =>
      match skipBlank rest with
      | [] => .error (.next .endInObject [])
      | ':' :: rest => .ok rest
      | rest => .error (.next .expectedColon rest)
  | rest => .error (.next .keyNotString rest)

theorem length_of_skipName {text rest : List Char} (h : skipName text = .ok rest) :
    rest.length < text.length := by
  unfold skipName at h
  split at h
  · cases h
  · rename_i rest₁ hblank
    have hquote := length_of_skipBlank hblank
    split at h
    · cases h
    · rename_i rest₂ hstring
      have hlt := length_of_skipString hstring
      split at h
      · cases h
      · rename_i rest₃ hcolon
        cases h
        have := length_of_skipBlank hcolon
        omega
      · cases h
  · cases h

mutual

/-- Finds the end of the outermost container, or of a single value, from a value on. -/
def skipValue (opened : List Container) (text : List Char) : Except Problem (List Char) :=
  match _h : skipBlank text with
  | [] => .error (.next .endInValue [])
  | 'n' :: rest =>
    match _h' : readWord ['u', 'l', 'l'] rest with
    | .error problem => .error problem
    | .ok rest => skipBehind opened rest
  | 't' :: rest =>
    match _h' : readWord ['r', 'u', 'e'] rest with
    | .error problem => .error problem
    | .ok rest => skipBehind opened rest
  | 'f' :: rest =>
    match _h' : readWord ['a', 'l', 's', 'e'] rest with
    | .error problem => .error problem
    | .ok rest => skipBehind opened rest
  | '-' :: rest =>
    match _h' : skipMagnitude rest with
    | .error problem => .error problem
    | .ok rest => skipBehind opened rest
  | '"' :: rest =>
    match _h' : skipString rest with
    | .error problem => .error problem
    | .ok rest => skipBehind opened rest
  | '[' :: rest =>
    match _h' : skipBlank rest with
    | [] => .error (.next .endInList [])
    | ']' :: rest => skipBehind opened rest
    | c :: rest => skipValue (.list :: opened) (c :: rest)
  | '\x7b' :: rest =>
    match _h' : skipBlank rest with
    | [] => .error (.next .endInObject [])
    | '\x7d' :: rest => skipBehind opened rest
    | c :: rest =>
      match _h'' : skipName (c :: rest) with
      | .error problem => .error problem
      | .ok rest => skipValue (.object :: opened) rest
  | c :: rest =>
    if c.isDigit then
      match _h' : skipMagnitude (c :: rest) with
      | .error problem => .error problem
      | .ok rest => skipBehind opened rest
    else .error (.next .expectedValue (c :: rest))
  termination_by text.length
  decreasing_by
    all_goals
      have := length_of_skipBlank _h
      try have := length_of_readWord _h'
      try have := length_of_skipMagnitude _h'
      try have := length_of_skipString _h'
      try have := length_of_skipBlank _h'
      try have := length_of_skipName _h''
      try simp only [List.length_cons] at *
      omega

/-- Finds the end of the outermost container from the end of a value on. -/
def skipBehind (opened : List Container) (text : List Char) : Except Problem (List Char) :=
  match opened with
  | [] => .ok text
  | .list :: outer =>
    match _h : skipBlank text with
    | [] => .error (.next .endInList [])
    | ',' :: rest => skipValue (.list :: outer) rest
    | ']' :: rest => skipBehind outer rest
    | rest => .error (.next .expectedCommaOrListEnd rest)
  | .object :: outer =>
    match _h : skipBlank text with
    | [] => .error (.next .endInObject [])
    | ',' :: rest =>
      match _h' : skipName rest with
      | .error problem => .error problem
      | .ok rest => skipValue (.object :: outer) rest
    | '\x7d' :: rest => skipBehind outer rest
    | rest => .error (.next .expectedCommaOrObjectEnd rest)
  termination_by text.length
  decreasing_by
    all_goals
      have := length_of_skipBlank _h
      try have := length_of_skipName _h'
      omega

end

/-! ## One step -/

theorem bind_eq_match (scan : Except Problem (List Char))
    (next : List Char → Except Problem (List Char)) :
    scan >>= next = match scan with
      | .error problem => .error problem
      | .ok rest => next rest := by
  cases scan <;> rfl

/-- What a value can start with, and what is done about it. -/
theorem skipValue_eq (opened : List Container) (text : List Char) :
    skipValue opened text = match skipBlank text with
      | [] => .error (.next .endInValue [])
      | 'n' :: rest => readWord ['u', 'l', 'l'] rest >>= skipBehind opened
      | 't' :: rest => readWord ['r', 'u', 'e'] rest >>= skipBehind opened
      | 'f' :: rest => readWord ['a', 'l', 's', 'e'] rest >>= skipBehind opened
      | '-' :: rest => skipMagnitude rest >>= skipBehind opened
      | '"' :: rest => skipString rest >>= skipBehind opened
      | '[' :: rest =>
        match skipBlank rest with
        | [] => .error (.next .endInList [])
        | ']' :: rest => skipBehind opened rest
        | rest => skipValue (.list :: opened) rest
      | '\x7b' :: rest =>
        match skipBlank rest with
        | [] => .error (.next .endInObject [])
        | '\x7d' :: rest => skipBehind opened rest
        | rest => skipName rest >>= skipValue (.object :: opened)
      | c :: rest =>
        if c.isDigit then skipMagnitude (c :: rest) >>= skipBehind opened
        else .error (.next .expectedValue (c :: rest)) := by
  rw [skipValue]
  split
  case h_1 hblank => rw [hblank]
  -- a word, a number with a sign, a string: one token, and what is behind it
  case h_2 hblank | h_3 hblank | h_4 hblank | h_5 hblank | h_6 hblank =>
    simp only [hblank, bind_eq_match]
    split <;> simp_all only
  -- a list
  case h_7 hblank =>
    simp only [hblank]
    split <;> simp_all
  -- an object
  case h_8 hblank =>
    simp only [hblank, bind_eq_match]
    split <;> simp_all
    split <;> simp_all
  -- a number without a sign
  case h_9 hblank =>
    simp_all only [bind_eq_match]
    split
    · split <;> simp_all only
    · rfl

/-- What can follow a value, and what is done about it. -/
theorem skipBehind_eq (opened : List Container) (text : List Char) :
    skipBehind opened text = match opened with
      | [] => .ok text
      | .list :: outer =>
        match skipBlank text with
        | [] => .error (.next .endInList [])
        | ',' :: rest => skipValue (.list :: outer) rest
        | ']' :: rest => skipBehind outer rest
        | rest => .error (.next .expectedCommaOrListEnd rest)
      | .object :: outer =>
        match skipBlank text with
        | [] => .error (.next .endInObject [])
        | ',' :: rest => skipName rest >>= skipValue (.object :: outer)
        | '\x7d' :: rest => skipBehind outer rest
        | rest => .error (.next .expectedCommaOrObjectEnd rest) := by
  rw [skipBehind.eq_def]
  split
  · rfl
  · split <;> simp_all
  · simp only [bind_eq_match]
    split <;> simp_all
    split <;> simp_all

/-! ## What they leave -/

/-- A scanner fails, or leaves less than `length` characters. -/
def Leaves (length : Nat) (answer : Except Problem (List Char)) : Prop :=
  ∀ rest, answer = .ok rest → rest.length < length

namespace Leaves

variable {length length' : Nat} {answer scan : Except Problem (List Char)}

theorem error (problem : Problem) : Leaves length (.error problem) := nofun

theorem ok {rest : List Char} (hlt : rest.length < length) : Leaves length (.ok rest) := by
  rintro _ ⟨⟩
  exact hlt

theorem mono (leaves : Leaves length answer) (hle : length ≤ length') : Leaves length' answer :=
  fun rest h => Nat.lt_of_lt_of_le (leaves rest h) hle

/-- Once a token has been taken off the text, the rest of it is left to whatever comes next. -/
theorem bind {next : List Char → Except Problem (List Char)} (token : Leaves length scan)
    (behind : ∀ rest, rest.length < length → Leaves length (next rest)) :
    Leaves length (scan >>= next) := by
  cases scan with
  | error problem => exact error problem
  | ok rest => exact behind rest (token rest rfl)

end Leaves

section

variable {opened : List Container} {text : List Char}
  (value : ∀ opened rest, rest.length < text.length → Leaves text.length (skipValue opened rest))
  (behind : ∀ opened rest, rest.length < text.length → Leaves text.length (skipBehind opened rest))
include value behind

/-- A value takes at least its first token off the text. -/
theorem leaves_skipValue_of_shorter : Leaves text.length (skipValue opened text) := by
  rw [skipValue_eq]
  split
  case h_1 => exact Leaves.error _
  -- `null`, `true`, `false`
  case h_2 rest hblank | h_3 rest hblank | h_4 rest hblank =>
    have hlt := length_of_skipBlank hblank
    have word : ∀ word, Leaves text.length (readWord word rest) := fun word rest' hword =>
      Nat.lt_of_le_of_lt (length_of_readWord hword) hlt
    exact (word _).bind (behind opened)
  -- a number with a sign
  case h_5 rest hblank =>
    have hlt := length_of_skipBlank hblank
    have number : Leaves text.length (skipMagnitude rest) := fun rest' hnumber =>
      Nat.lt_trans (length_of_skipMagnitude hnumber) hlt
    exact number.bind (behind opened)
  -- a string
  case h_6 rest hblank =>
    have hlt := length_of_skipBlank hblank
    have string : Leaves text.length (skipString rest) := fun rest' hstring =>
      Nat.lt_trans (length_of_skipString hstring) hlt
    exact string.bind (behind opened)
  -- a list, which may be empty
  case h_7 rest hblank =>
    have hlt := length_of_skipBlank hblank
    split
    case h_1 => exact Leaves.error _
    case h_2 rest' hclose =>
      exact behind opened rest' (Nat.lt_trans (length_of_skipBlank hclose) hlt)
    case h_3 =>
      exact value _ _ (Nat.lt_of_le_of_lt (length_skipBlank_le rest) hlt)
  -- an object, which may be empty
  case h_8 rest hblank =>
    have hlt := length_of_skipBlank hblank
    split
    case h_1 => exact Leaves.error _
    case h_2 rest' hclose =>
      exact behind opened rest' (Nat.lt_trans (length_of_skipBlank hclose) hlt)
    case h_3 =>
      have hle := length_skipBlank_le rest
      have name : Leaves text.length (skipName (skipBlank rest)) := fun rest' hname => by
        have := length_of_skipName hname
        omega
      exact name.bind (value (.object :: opened))
  -- a number without a sign
  case h_9 c rest _ _ _ _ _ _ _ hblank =>
    split
    · have hle := length_skipBlank_le text
      rw [hblank] at hle
      have number : Leaves text.length (skipMagnitude (c :: rest)) := fun rest' hnumber =>
        Nat.lt_of_lt_of_le (length_of_skipMagnitude hnumber) hle
      exact number.bind (behind opened)
    · exact Leaves.error _

/-- What follows a value takes nothing off the text only where nothing is open. -/
theorem leaves_skipBehind_of_shorter : Leaves (text.length + 1) (skipBehind opened text) := by
  rw [skipBehind_eq]
  split
  -- nothing is open
  case h_1 => exact Leaves.ok (Nat.lt_succ_self _)
  -- in a list
  case h_2 outer =>
    refine Leaves.mono ?_ (Nat.le_succ text.length)
    split
    case h_1 => exact Leaves.error _
    case h_2 rest hcomma => exact value _ rest (length_of_skipBlank hcomma)
    case h_3 rest hclose => exact behind outer rest (length_of_skipBlank hclose)
    case h_4 => exact Leaves.error _
  -- in an object
  case h_3 outer =>
    refine Leaves.mono ?_ (Nat.le_succ text.length)
    split
    case h_1 => exact Leaves.error _
    case h_2 rest hcomma =>
      have hlt := length_of_skipBlank hcomma
      have name : Leaves text.length (skipName rest) := fun rest' hname =>
        Nat.lt_trans (length_of_skipName hname) hlt
      exact name.bind (value (.object :: outer))
    case h_3 rest hclose => exact behind outer rest (length_of_skipBlank hclose)
    case h_4 => exact Leaves.error _

end

/-- Both skippers only shorten the text, the first one by one character at least. -/
theorem leaves_skip (bound : Nat) (opened : List Container) (text : List Char)
    (hbound : text.length < bound) :
    Leaves text.length (skipValue opened text) ∧
      Leaves (text.length + 1) (skipBehind opened text) := by
  induction bound generalizing opened text with
  | zero => exact absurd hbound (Nat.not_lt_zero _)
  | succ bound ih =>
    have value : ∀ opened rest, rest.length < text.length →
        Leaves text.length (skipValue opened rest) := fun opened rest hlt =>
      (ih opened rest (by omega)).1.mono (Nat.le_of_lt hlt)
    have behind : ∀ opened rest, rest.length < text.length →
        Leaves text.length (skipBehind opened rest) := fun opened rest hlt =>
      (ih opened rest (by omega)).2.mono hlt
    exact ⟨leaves_skipValue_of_shorter value behind, leaves_skipBehind_of_shorter value behind⟩

theorem length_of_skipValue {opened : List Container} {text rest : List Char}
    (h : skipValue opened text = .ok rest) : rest.length < text.length :=
  (leaves_skip (text.length + 1) opened text (Nat.lt_succ_self _)).1 rest h

end PortKnock.Json
