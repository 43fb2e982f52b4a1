import PortKnock.Json.Number

/-!
# Values of an expected type

Readers for values that somebody asked for.  Where the text holds a value of
another type, that value is read to its end first, so that a fault inside of it
is reported before the mismatch; of a list or an object only the bracket is
looked at.
-/

namespace PortKnock.Json

/-- A value that was read in full but is not of the expected type. -/
def mismatchBehind (expected : String) (found : Found) : Except Problem (List Char) → Problem
  | .error problem => problem
  | .ok rest => .here (.invalidType found expected) rest

/-- What is wrong with the value at the start of a text if it is not of the expected type. -/
def mismatch (expected : String) (text : List Char) : Problem :=
  let number := match readNumber text with
    | .error problem => problem
    | .ok (number, rest) => .here (.invalidType number.found expected) rest
  match text with
  | 'n' :: rest => mismatchBehind expected .null (readWord ['u', 'l', 'l'] rest)
  | 't' :: rest => mismatchBehind expected (.boolean true) (readWord ['r', 'u', 'e'] rest)
  | 'f' :: rest => mismatchBehind expected (.boolean false) (readWord ['a', 'l', 's', 'e'] rest)
  | '"' :: rest =>
    match readString rest with
    | .error problem => problem
    | .ok (cs, rest) => .here (.invalidType (.text (String.ofList cs)) expected) rest
  | '[' :: rest => .here (.invalidType .sequence expected) ('[' :: rest)
  | '\x7b' :: rest => .here (.invalidType .map expected) ('\x7b' :: rest)
  | '-' :: _ => number
  | [] => .next .expectedValue []
  | c :: rest => if c.isDigit then number else .next .expectedValue (c :: rest)

/-! ## Readers -/

def readBoolean (text : List Char) : Scan Bool :=
  match skipBlank text with
  | [] => .error (.next .endInValue [])
  | 't' :: rest =>
    match readWord ['r', 'u', 'e'] rest with
    | .error problem => .error problem
    | .ok rest => .ok (true, rest)
  | 'f' :: rest =>
    match readWord ['a', 'l', 's', 'e'] rest with
    | .error problem => .error problem
    | .ok rest => .ok (false, rest)
  | rest => .error (mismatch "a boolean" rest)

/-- Reads a string; `expected` says what it is expected to be. -/
def readText (expected : String) (text : List Char) : Scan String :=
  match skipBlank text with
  | [] => .error (.next .endInValue [])
  | '"' :: rest =>
    match readString rest with
    | .error problem => .error problem
    | .ok (cs, rest) => .ok (String.ofList cs, rest)
  | rest => .error (mismatch expected rest)

/-- Reads a string or `null`. -/
def readText? (expected : String) (text : List Char) : Scan (Option String) :=
  match skipBlank text with
  | 'n' :: rest =>
    match readWord ['u', 'l', 'l'] rest with
    | .error problem => .error problem
    | .ok rest => .ok (none, rest)
  | rest =>
    match readText expected rest with
    | .error problem => .error problem
    | .ok (value, rest) => .ok (some value, rest)

/-- Reads a whole number of 64 bits. -/
def readCount (text : List Char) : Scan UInt64 :=
  match skipBlank text with
  | [] => .error (.next .endInValue [])
  | c :: rest =>
    if c = '-' ∨ c.isDigit then
      match readNumber (c :: rest) with
      | .error problem => .error problem
      | .ok (.natural value, rest) => .ok (value, rest)
      | .ok (.negative magnitude, rest) =>
        .error (.here (.invalidValue (Number.negative magnitude).found "usize") rest)
      | .ok (.float value, rest) => .error (.here (.invalidType (.float value) "usize") rest)
    else .error (mismatch "usize" (c :: rest))

/-- Reads `null`. -/
def readNull (text : List Char) : Except Problem (List Char) :=
  match skipBlank text with
  | [] => .error (.next .endInValue [])
  | 'n' :: rest => readWord ['u', 'l', 'l'] rest
  | rest => .error (mismatch "unit" rest)

/-- Reads the colon behind the name of a member. -/
def readColon (text : List Char) : Except Problem (List Char) :=
  match skipBlank text with
  | [] => .error (.next .endInObject [])
  | ':' :: rest => .ok rest
  | rest => .error (.next .expectedColon rest)

/-! ## Readers only shorten the text -/

theorem length_of_readBoolean {text rest : List Char} {value : Bool}
    (h : readBoolean text = .ok (value, rest)) : rest.length < text.length := by
  unfold readBoolean at h
  split at h
  · cases h
  · rename_i hblank
    have hlt := length_of_skipBlank hblank
    split at h
    · cases h
    · rename_i hword
      cases h
      have := length_of_readWord hword
      omega
  · rename_i hblank
    have hlt := length_of_skipBlank hblank
    split at h
    · cases h
    · rename_i hword
      cases h
      have := length_of_readWord hword
      omega
  · cases h

theorem length_of_readText {expected : String} {text rest : List Char} {value : String}
    (h : readText expected text = .ok (value, rest)) : rest.length < text.length := by
  unfold readText at h
  split at h
  · cases h
  · rename_i hblank
    have hlt := length_of_skipBlank hblank
    split at h
    · cases h
    · rename_i hstring
      cases h
      have := length_of_readString hstring
      omega
  · cases h

theorem length_of_readText? {expected : String} {text rest : List Char} {value : Option String}
    (h : readText? expected text = .ok (value, rest)) : rest.length < text.length := by
  unfold readText? at h
  split at h
  · rename_i hblank
    have hlt := length_of_skipBlank hblank
    split at h
    · cases h
    · rename_i hword
      cases h
      have := length_of_readWord hword
      omega
  · split at h
    · cases h
    · rename_i htext
      cases h
      have hlt := length_of_readText htext
      have := length_skipBlank_le text
      omega

theorem length_of_readCount {text rest : List Char} {value : UInt64}
    (h : readCount text = .ok (value, rest)) : rest.length < text.length := by
  unfold readCount at h
  split at h
  · cases h
  · rename_i hblank
    have hlt := length_of_skipBlank hblank
    split at h
    · split at h
      · cases h
      · rename_i hnumber
        cases h
        have := length_of_readNumber hnumber
        simp only [List.length_cons] at this
        omega
      · cases h
      · cases h
    · cases h

theorem length_of_readNull {text rest : List Char} (h : readNull text = .ok rest) :
    rest.length < text.length := by
  unfold readNull at h
  split at h
  · cases h
  · rename_i hblank
    have hlt := length_of_skipBlank hblank
    have := length_of_readWord h
    omega
  · cases h

theorem length_of_readColon {text rest : List Char} (h : readColon text = .ok rest) :
    rest.length < text.length := by
  unfold readColon at h
  split at h
  · cases h
  · rename_i hblank
    cases h
    exact length_of_skipBlank hblank
  · cases h

end PortKnock.Json
