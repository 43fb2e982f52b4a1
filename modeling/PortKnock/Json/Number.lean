import PortKnock.Json.Scanner

/-!
# Numbers

A number without fraction and exponent is whole as long as it fits into 64
bits, with a sign or without; every other one is a double.  The double is
computed from the digits that fit into 64 bits and a power of ten, so it may
miss the nearest double by a few units in the last place.

`readNumber` reads the value.  `skipMagnitude` only finds the end of a number
whose sign has been read, and accepts one of any size.
-/

namespace PortKnock.Json

/-- The value of a number. -/
inductive Number
  | natural (value : UInt64)
  /-- The number `-magnitude`, with a magnitude from 1 to 2 ^ 63. -/
  | negative (magnitude : UInt64)
  | float (value : Float)

def Number.found : Number → Found
  | natural value => .integer value.toNat
  | negative magnitude => .integer (-magnitude.toNat)
  | float value => .float value

/-! ## Digits -/

def digitValue (c : Char) : Nat :=
  c.toNat - '0'.toNat

/-- Splits off the digits at the start of a text. -/
def spanDigits (text : List Char) : List Char × List Char :=
  (text.takeWhile Char.isDigit, text.dropWhile Char.isDigit)

theorem length_spanDigits_le (text : List Char) :
    (spanDigits text).2.length ≤ text.length := by
  induction text with
  | nil => exact Nat.le_refl _
  | cons c rest ih =>
    unfold spanDigits at ih ⊢
    rw [List.dropWhile_cons]
    split
    · exact Nat.le_succ_of_le ih
    · exact Nat.le_refl _

/-- Appends digits to a number as long as it stays below `bound`; the second part holds the digits
from the first one on that does not fit. -/
def gather (bound : Nat) : (value : Nat) → (digits : List Char) → Nat × List Char
  | value, [] => (value, [])
  | value, digit :: digits =>
    let longer := 10 * value + digitValue digit
    if longer < bound then gather bound longer digits else (value, digit :: digits)

/-- Significands are kept in 64 bits. -/
def significandBound : Nat := UInt64.size

/-- Exponents are kept in 31 bits. -/
def exponentBound : Nat := 1 <<< 31

/-! ## Doubles -/

/-- The double nearest to a power of ten. -/
def powerOfTen (exponent : Nat) : Float :=
  Float.ofScientific 1 false exponent

/-- Divides by a power of ten, in steps of at most 308. -/
def divideByPower (value : Float) (exponent : Nat) : Float :=
  if exponent ≤ 308 then value / powerOfTen exponent
  else if value == 0 then value
  else divideByPower (value / powerOfTen 308) (exponent - 308)
  termination_by exponent

/-- The double `significand * 10 ^ exponent`, none if it is out of range. -/
def scale? (significand : Nat) (exponent : Int) : Option Float :=
  let value := (UInt64.ofNat significand).toFloat
  if exponent < 0 then some (divideByPower value exponent.natAbs)
  else if exponent ≤ 308 then
    let scaled := value * powerOfTen exponent.toNat
    if scaled.isInf then none else some scaled
  else if significand = 0 then some value
  else none

def withSign (negative : Bool) (value : Float) : Float :=
  if negative then -value else value

/-- A number that is a double, at its end. -/
def readScaled (negative : Bool) (significand : Nat) (exponent : Int) (rest : List Char) :
    Scan Number :=
  match scale? significand exponent with
  | some value => .ok (.float (withSign negative value), rest)
  | none => .error (.here .numberOutOfRange rest)

/-! ## Reading -/

/-- Splits off the sign of an exponent, which may be missing; the first part says whether it is
negative. -/
def spanSign (text : List Char) : Bool × List Char :=
  match text with
  | '+' :: rest => (false, rest)
  | '-' :: rest => (true, rest)
  | rest => (false, rest)

theorem length_spanSign_le (text : List Char) : (spanSign text).2.length ≤ text.length := by
  unfold spanSign
  split
  · exact Nat.le_succ _
  · exact Nat.le_succ _
  · exact Nat.le_refl _

/-- Reads the digits of an exponent, which is negative if `down` says so.  One that does not fit
makes the number zero or puts it out of range, which is noticed at the first digit too many. -/
def readExponentDigits (negative : Bool) (significand : Nat) (scaled : Int) (down : Bool)
    (text : List Char) : Scan Number :=
  match text with
  | [] => .error (.here .endInValue [])
  | c :: _ =>
    if c.isDigit then
      let (digits, rest) := spanDigits text
      let (exponent, surplus) := gather exponentBound 0 digits
      if surplus.isEmpty then
        readScaled negative significand
          (if down then scaled - exponent else scaled + exponent) rest
      else if significand ≠ 0 ∧ !down then
        .error (.here .numberOutOfRange (surplus.drop 1 ++ rest))
      else .ok (.float (withSign negative 0), rest)
    else .error (.next .invalidNumber text)

/-- Reads an exponent behind its letter. -/
def readExponent (negative : Bool) (significand : Nat) (scaled : Int) (text : List Char) :
    Scan Number :=
  readExponentDigits negative significand scaled (spanSign text).1 (spanSign text).2

/-- Reads on behind digits that are known to belong to a double. -/
def readExponentOrEnd (negative : Bool) (significand : Nat) (scaled : Int) (text : List Char) :
    Scan Number :=
  match text with
  | 'e' :: rest => readExponent negative significand scaled rest
  | 'E' :: rest => readExponent negative significand scaled rest
  | rest => readScaled negative significand scaled rest

/-- Reads a fraction behind its point. -/
def readFraction (negative : Bool) (significand : Nat) (scaled : Int) (text : List Char) :
    Scan Number :=
  let (digits, rest) := spanDigits text
  if digits.isEmpty then
    .error (.next (if rest.isEmpty then .endInValue else .invalidNumber) rest)
  else
    let (significand, surplus) := gather significandBound significand digits
    readExponentOrEnd negative significand (scaled - (digits.length - surplus.length : Nat)) rest

/-- A whole number, or a double if it does not fit into 64 bits with its sign. -/
def wholeNumber (negative : Bool) (significand : Nat) : Number :=
  if !negative then .natural (UInt64.ofNat significand)
  else if 1 ≤ significand ∧ significand ≤ 1 <<< 63 then .negative (UInt64.ofNat significand)
  else .float (-(UInt64.ofNat significand).toFloat)

/-- Reads on behind the digits of the whole part, of which `surplus` did not fit. -/
def readBehindWhole (negative : Bool) (significand : Nat) (surplus : List Char)
    (text : List Char) : Scan Number :=
  match text with
  | '.' :: rest => readFraction negative significand surplus.length rest
  | 'e' :: rest => readExponent negative significand surplus.length rest
  | 'E' :: rest => readExponent negative significand surplus.length rest
  | rest =>
    if surplus.isEmpty then .ok (wholeNumber negative significand, rest)
    else readScaled negative significand surplus.length rest

/-- Reads a number behind its sign. -/
def readMagnitude (negative : Bool) (text : List Char) : Scan Number :=
  match text with
  | [] => .error (.here .endInValue [])
  | c :: rest =>
    if c = '0' then
      if (spanDigits rest).1.isEmpty then readBehindWhole negative 0 [] rest
      else .error (.next .invalidNumber rest)
    else if c.isDigit then
      let (digits, rest) := spanDigits text
      let (significand, surplus) := gather significandBound 0 digits
      readBehindWhole negative significand surplus rest
    else .error (.next .invalidNumber text)

/-- Reads a number. -/
def readNumber (text : List Char) : Scan Number :=
  match text with
  | '-' :: rest => readMagnitude true rest
  | text => readMagnitude false text

/-! ## Skipping -/

/-- Finds the end of an exponent behind its letter. -/
def skipExponent (text : List Char) : Except Problem (List Char) :=
  match (spanSign text).2 with
  | [] => .error (.here .invalidNumber [])
  | c :: rest =>
    if c.isDigit then .ok (spanDigits rest).2 else .error (.next .invalidNumber (c :: rest))

/-- Finds the end of a number behind its digits. -/
def skipExponentOrEnd (text : List Char) : Except Problem (List Char) :=
  match text with
  | 'e' :: rest => skipExponent rest
  | 'E' :: rest => skipExponent rest
  | rest => .ok rest

/-- Finds the end of a number behind its whole part. -/
def skipBehindWhole (text : List Char) : Except Problem (List Char) :=
  match text with
  | '.' :: rest =>
    let (digits, rest) := spanDigits rest
    if digits.isEmpty then .error (.next .invalidNumber rest) else skipExponentOrEnd rest
  | rest => skipExponentOrEnd rest

/-- Finds the end of a number behind its sign. -/
def skipMagnitude (text : List Char) : Except Problem (List Char) :=
  match text with
  | [] => .error (.here .invalidNumber [])
  | c :: rest =>
    if c = '0' then
      if (spanDigits rest).1.isEmpty then skipBehindWhole rest
      else .error (.next .invalidNumber rest)
    else if c.isDigit then skipBehindWhole (spanDigits rest).2
    else .error (.next .invalidNumber (c :: rest))

/-! ## Scanners only shorten the text -/

theorem eq_of_readScaled {negative : Bool} {significand : Nat} {scaled : Int}
    {text rest : List Char} {number : Number}
    (h : readScaled negative significand scaled text = .ok (number, rest)) : rest = text := by
  unfold readScaled at h
  split at h
  · simp only [Except.ok.injEq, Prod.mk.injEq] at h
    exact h.2.symm
  · cases h

theorem length_of_readExponentDigits {negative : Bool} {significand : Nat} {scaled : Int}
    {down : Bool} {text rest : List Char} {number : Number}
    (h : readExponentDigits negative significand scaled down text = .ok (number, rest)) :
    rest.length ≤ text.length := by
  unfold readExponentDigits at h
  split at h
  · cases h
  · rename_i c rest'
    have hspan := length_spanDigits_le (c :: rest')
    split at h
    · simp only at h
      split at h
      · rw [eq_of_readScaled h]
        exact hspan
      · split at h
        · cases h
        · simp only [Except.ok.injEq, Prod.mk.injEq] at h
          rw [← h.2]
          exact hspan
    · cases h

theorem length_of_readExponent {negative : Bool} {significand : Nat} {scaled : Int}
    {text rest : List Char} {number : Number}
    (h : readExponent negative significand scaled text = .ok (number, rest)) :
    rest.length ≤ text.length :=
  Nat.le_trans (length_of_readExponentDigits h) (length_spanSign_le text)

theorem length_of_readExponentOrEnd {negative : Bool} {significand : Nat} {scaled : Int}
    {text rest : List Char} {number : Number}
    (h : readExponentOrEnd negative significand scaled text = .ok (number, rest)) :
    rest.length ≤ text.length := by
  unfold readExponentOrEnd at h
  split at h
  · exact Nat.le_succ_of_le (length_of_readExponent h)
  · exact Nat.le_succ_of_le (length_of_readExponent h)
  · exact Nat.le_of_eq (by rw [eq_of_readScaled h])

theorem length_of_readFraction {negative : Bool} {significand : Nat} {scaled : Int}
    {text rest : List Char} {number : Number}
    (h : readFraction negative significand scaled text = .ok (number, rest)) :
    rest.length ≤ text.length := by
  unfold readFraction at h
  simp only at h
  split at h
  · cases h
  · exact Nat.le_trans (length_of_readExponentOrEnd h) (length_spanDigits_le text)

theorem length_of_readBehindWhole {negative : Bool} {significand : Nat} {surplus : List Char}
    {text rest : List Char} {number : Number}
    (h : readBehindWhole negative significand surplus text = .ok (number, rest)) :
    rest.length ≤ text.length := by
  unfold readBehindWhole at h
  split at h
  · exact Nat.le_succ_of_le (length_of_readFraction h)
  · exact Nat.le_succ_of_le (length_of_readExponent h)
  · exact Nat.le_succ_of_le (length_of_readExponent h)
  · split at h
    · simp only [Except.ok.injEq, Prod.mk.injEq] at h
      exact Nat.le_of_eq (by rw [← h.2])
    · exact Nat.le_of_eq (by rw [eq_of_readScaled h])

theorem length_of_readMagnitude {negative : Bool} {text rest : List Char} {number : Number}
    (h : readMagnitude negative text = .ok (number, rest)) : rest.length < text.length := by
  unfold readMagnitude at h
  split at h
  · cases h
  · rename_i c rest'
    split at h
    · split at h
      · exact Nat.lt_succ_of_le (length_of_readBehindWhole h)
      · cases h
    · split at h
      · rename_i hdigit
        have hspan : (spanDigits (c :: rest')).2.length ≤ rest'.length := by
          have : spanDigits (c :: rest') = (c :: (spanDigits rest').1, (spanDigits rest').2) := by
            simp [spanDigits, hdigit]
          rw [this]
          exact length_spanDigits_le rest'
        exact Nat.lt_succ_of_le (Nat.le_trans (length_of_readBehindWhole h) hspan)
      · cases h

theorem length_of_readNumber {text rest : List Char} {number : Number}
    (h : readNumber text = .ok (number, rest)) : rest.length < text.length := by
  unfold readNumber at h
  split at h
  · exact Nat.lt_succ_of_lt (length_of_readMagnitude h)
  · exact length_of_readMagnitude h

theorem length_of_skipExponent {text rest : List Char} (h : skipExponent text = .ok rest) :
    rest.length ≤ text.length := by
  have hsign := length_spanSign_le text
  unfold skipExponent at h
  split at h
  · cases h
  · rename_i c rest' hspan
    rw [hspan, List.length_cons] at hsign
    split at h
    · cases h
      have := length_spanDigits_le rest'
      omega
    · cases h

theorem length_of_skipExponentOrEnd {text rest : List Char}
    (h : skipExponentOrEnd text = .ok rest) : rest.length ≤ text.length := by
  unfold skipExponentOrEnd at h
  split at h
  · exact Nat.le_succ_of_le (length_of_skipExponent h)
  · exact Nat.le_succ_of_le (length_of_skipExponent h)
  · cases h
    exact Nat.le_refl _

theorem length_of_skipBehindWhole {text rest : List Char}
    (h : skipBehindWhole text = .ok rest) : rest.length ≤ text.length := by
  unfold skipBehindWhole at h
  split at h
  · rename_i rest'
    simp only at h
    split at h
    · cases h
    · have hlt := length_of_skipExponentOrEnd h
      have := length_spanDigits_le rest'
      simp only [List.length_cons]
      omega
  · exact length_of_skipExponentOrEnd h

theorem length_of_skipMagnitude {text rest : List Char} (h : skipMagnitude text = .ok rest) :
    rest.length < text.length := by
  unfold skipMagnitude at h
  split at h
  · cases h
  · rename_i c rest'
    simp only [List.length_cons]
    split at h
    · split at h
      · have := length_of_skipBehindWhole h
        omega
      · cases h
    · split at h
      · have hlt := length_of_skipBehindWhole h
        have := length_spanDigits_le rest'
        omega
      · cases h

end PortKnock.Json
