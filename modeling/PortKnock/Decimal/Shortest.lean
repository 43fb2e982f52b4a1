/-!
# Shortest decimals

A double stands for all real numbers that round to it, an interval around its
value that holds its ends if the significand is even.  Of the powers of ten
there is a largest one with a multiple in that interval; that multiple is the
shortest decimal that reads back as the double, and of two of them the nearer
one is taken.  Everything is decided in whole numbers.
-/

namespace PortKnock.Decimal

/-- The finite positive double `significand * 2 ^ exponent`.  `narrow` says that its lower
neighbour is only half as far away as the upper one. -/
structure Binary where
  significand : Nat
  exponent : Int
  narrow : Bool
  deriving DecidableEq, Repr

/-- The decimal `digits * 10 ^ exponent`. -/
structure Digits where
  digits : Nat
  exponent : Int
  deriving DecidableEq, Repr

namespace Binary

/-- Fourfold significands of the value and of the two ends of its interval, so that half steps
and quarter steps are whole. -/
def middle (b : Binary) : Nat := 4 * b.significand

def upper (b : Binary) : Nat := 4 * b.significand + 2

def lower (b : Binary) : Nat := 4 * b.significand - if b.narrow then 1 else 2

/-- Whether the ends belong to the interval. -/
def closed (b : Binary) : Bool := b.significand % 2 == 0

/-- A quarter of `2 ^ b.exponent` in units of `10 ^ power`, as a numerator and a denominator. -/
def quarterIn (b : Binary) (power : Int) : Nat × Nat :=
  (Nat.pow 2 (b.exponent - 2).toNat * Nat.pow 10 (-power).toNat,
    Nat.pow 2 (2 - b.exponent).toNat * Nat.pow 10 power.toNat)

/-- Whether `digits * 10 ^ power` rounds to the double. -/
def contains (b : Binary) (power : Int) (digits : Nat) : Bool :=
  let (num, den) := b.quarterIn power
  if b.closed then b.lower * num ≤ digits * den && digits * den ≤ b.upper * num
  else b.lower * num < digits * den && digits * den < b.upper * num

/-- The multiple of `10 ^ power` nearest to the double among those that round to it.  If there is
one, it is one of the two neighbours of the value. -/
def multiple? (b : Binary) (power : Int) : Option Nat :=
  let (num, den) := b.quarterIn power
  let below := b.middle * num / den
  match b.contains power below, b.contains power (below + 1) with
  | true, false => some below
  | false, true => some (below + 1)
  | false, false => none
  | true, true =>
    let excess := b.middle * num - below * den
    let lack := (below + 1) * den - b.middle * num
    if excess < lack || (excess == lack && below % 2 == 0) then some below else some (below + 1)

/-- Tries powers of ten from `power` downwards, `fuel` of them at most. -/
def shortestFrom (b : Binary) : (fuel : Nat) → (power : Int) → Digits
  | 0, power => ⟨0, power⟩
  | fuel + 1, power =>
    match b.multiple? power with
    | some digits => ⟨digits, power⟩
    | none => b.shortestFrom fuel (power - 1)

/-- The shortest decimal.  No finite double reaches 10 ^ 309, and seventeen digits are enough for
the smallest one, 5 * 10 ^ -324. -/
def shortest (b : Binary) : Digits :=
  b.shortestFrom 660 309

end Binary

/-- The finite value of a positive double other than zero. -/
def Binary.ofBits (bits : UInt64) : Binary :=
  let fraction := bits.toNat % (1 <<< 52)
  let biased : Nat := (bits.toNat >>> 52) % (1 <<< 11)
  if biased = 0 then
    { significand := fraction, exponent := -1074, narrow := false }
  else
    { significand := (1 <<< 52) + fraction
      exponent := (biased : Int) - 1075
      narrow := fraction == 0 && biased > 1 }

/-! ## Notation -/

/-- Decimal exponents of the leading digit that are written positionally; beyond them an exponent
with its sign follows. -/
def positionalRange : Int × Int := (-5, 15)

/-- Digits with a point behind the first `whole` of them. -/
def pointed (digits : List Char) (whole : Nat) : List Char :=
  digits.take whole ++ '.' :: digits.drop whole

/-- The text of a positive decimal.  A whole number written positionally ends in `.0`. -/
def Digits.text (d : Digits) : List Char :=
  let digits := Nat.toDigits 10 d.digits
  let leading : Int := d.exponent + (digits.length - 1)
  if positionalRange.1 ≤ leading ∧ leading ≤ positionalRange.2 then
    if 0 ≤ d.exponent then
      digits ++ List.replicate d.exponent.toNat '0' ++ ['.', '0']
    else if 0 ≤ leading then
      pointed digits (leading.toNat + 1)
    else
      ['0', '.'] ++ List.replicate ((-leading).toNat - 1) '0' ++ digits
  else
    let mantissa := if digits.length = 1 then digits else pointed digits 1
    let sign := if leading < 0 then '-' else '+'
    mantissa ++ ['e', sign] ++ Nat.toDigits 10 leading.natAbs

/-- The shortest text that reads back as a finite double. -/
def shortestText (value : Float) : String :=
  let bits := value.toBits
  let magnitude := bits &&& 0x7fffffffffffffff
  let sign := if bits = magnitude then [] else ['-']
  let text := if magnitude = 0 then ['0', '.', '0'] else (Binary.ofBits magnitude).shortest.text
  String.ofList (sign ++ text)

end PortKnock.Decimal
