/-!
# Reading integers

Integers in decimal notation for a given range.  Digits are taken from left to
right, and the first one that is none or leads out of the range settles what is
wrong with a text.
-/

namespace PortKnock.Decimal

/-- The integers from `least` to `most`. -/
structure Range where
  least : Int
  most : Int
  deriving DecidableEq, Repr

namespace Range

def contains (range : Range) (value : Int) : Bool :=
  range.least ≤ value && value ≤ range.most

/-- Both ends, as messages show them. -/
def text (range : Range) : String :=
  toString range.least ++ "..=" ++ toString range.most

/-- Unsigned numbers of `bits` bits. -/
def unsigned (bits : Nat) : Range := ⟨0, Nat.pow 2 bits - 1⟩

/-- Signed numbers of `bits` bits in two's complement. -/
def signed (bits : Nat) : Range := ⟨-Nat.pow 2 (bits - 1), Nat.pow 2 (bits - 1) - 1⟩

end Range

/-- Why a text is no integer of a range. -/
inductive IntegerError
  | empty
  | invalidDigit
  | tooLarge
  | tooSmall
  deriving DecidableEq, Repr

def IntegerError.message : IntegerError → String
  | empty => "cannot parse integer from empty string"
  | invalidDigit => "invalid digit found in string"
  | tooLarge => "number too large to fit in target type"
  | tooSmall => "number too small to fit in target type"

/-- Puts digits behind a magnitude that stays up to `limit`. -/
def readDigits (limit : Nat) (beyond : IntegerError) (magnitude : Nat) :
    List Char → Except IntegerError Nat
  | [] => .ok magnitude
  | digit :: rest =>
    if !digit.isDigit then .error .invalidDigit
    else
      let magnitude := 10 * magnitude + (digit.toNat - '0'.toNat)
      if magnitude ≤ limit then readDigits limit beyond magnitude rest else .error beyond

/-- Reads digits behind an optional sign.  A minus is one only where the range has negative
numbers. -/
def readInteger (range : Range) : List Char → Except IntegerError Int
  | [] => .error .empty
  | ['+'] | ['-'] => .error .invalidDigit
  | '+' :: digits => (readDigits range.most.toNat .tooLarge 0 digits).map Int.ofNat
  | '-' :: digits =>
    if range.least < 0 then
      (readDigits range.least.natAbs .tooSmall 0 digits).map fun magnitude => -Int.ofNat magnitude
    else .error .invalidDigit
  | digits => (readDigits range.most.toNat .tooLarge 0 digits).map Int.ofNat

end PortKnock.Decimal
