import PortKnock.Pattern.CharSet

/-!
# Patterns of text

A pattern occurs in a text if some stretch of the text matches it.  Matching
works on sets of positions: `Pattern.ends` gives all positions where a match can
end that starts at one of the given positions.  Position `n` is the gap behind
the first `n` characters.
-/

namespace PortKnock

/-- A condition on a position. -/
inductive Pattern.Place
  | textStart
  | textEnd
  | lineStart
  | lineEnd
  /-- Lines end with a line feed, a carriage return or both. -/
  | anyLineStart
  | anyLineEnd
  | wordBoundary
  | noWordBoundary
  | wordStart
  | wordEnd
  /-- No character of a word stands in front. -/
  | wordStartHalf
  /-- No character of a word follows. -/
  | wordEndHalf
  deriving DecidableEq, Repr

inductive Pattern
  /-- Matches the empty text. -/
  | empty
  /-- Matches one character of a set. -/
  | one (set : Pattern.CharSet)
  | place (place : Pattern.Place)
  | both (first second : Pattern)
  | either (one other : Pattern)
  /-- Matches at least `least` and, if there is a limit, at most `most` times in a row. -/
  | repeated (least : Nat) (most? : Option Nat) (body : Pattern)
  deriving DecidableEq, Repr

namespace Pattern

/-! ## Matching -/

/-- Whether a position with the given characters around it satisfies the condition. -/
def Place.holds (place : Place) (before? after? : Option Char) : Bool :=
  let inWord (c? : Option Char) : Bool := c?.any CharSet.word.contains
  match place with
  | textStart => before?.isNone
  | textEnd => after?.isNone
  | lineStart => before?.isNone || before? == some '\n'
  | lineEnd => after?.isNone || after? == some '\n'
  | anyLineStart =>
    before?.isNone || before? == some '\n' || before? == some '\r' && after? != some '\n'
  | anyLineEnd =>
    after?.isNone || after? == some '\r' || after? == some '\n' && before? != some '\r'
  | wordBoundary => inWord before? != inWord after?
  | noWordBoundary => inWord before? == inWord after?
  | wordStart => !inWord before? && inWord after?
  | wordEnd => inWord before? && !inWord after?
  | wordStartHalf => !inWord before?
  | wordEndHalf => !inWord after?

/-- The character in front of a position. -/
def before? (text : Array Char) : Nat → Option Char
  | 0 => none
  | position + 1 => text[position]?

/-- All positions of two lists. -/
def union (one other : List Nat) : List Nat :=
  one ++ other.filter (!one.contains ·)

/-- A step taken a number of times. -/
def iterate (step : List Nat → List Nat) : Nat → List Nat → List Nat
  | 0, positions => positions
  | times + 1, positions => iterate step times (step positions)

/-- What is reached by a step taken at most a number of times. -/
def reach (step : List Nat → List Nat) : Nat → List Nat → List Nat
  | 0, positions => positions
  | times + 1, positions => union positions (reach step times (step positions))

/-- The positions where a match ends that starts at one of the given positions.  A step never goes
back, so that taken more often than there are positions it leads nowhere new. -/
def ends (text : Array Char) : Pattern → List Nat → List Nat
  | empty, starts => starts
  | one set, starts =>
    (starts.filter fun position => text[position]?.any set.contains).map (· + 1)
  | place condition, starts =>
    starts.filter fun position => condition.holds (before? text position) text[position]?
  | both first second, starts => second.ends text (first.ends text starts)
  | either left right, starts => union (left.ends text starts) (right.ends text starts)
  | repeated least most? body, starts =>
    let limit := text.size + 2
    let begun := iterate (body.ends text) (min least limit) starts
    match most? with
    | none => reach (body.ends text) limit begun
    | some most => reach (body.ends text) (min (most - least) limit) begun

/-- Whether some stretch of the text matches. -/
def occursIn (pattern : Pattern) (text : String) : Bool :=
  let characters := text.toList.toArray
  !(pattern.ends characters (List.range (characters.size + 1))).isEmpty

/-! ## Building patterns -/

/-- Patterns one behind the other. -/
def sequence : List Pattern → Pattern
  | [] => empty
  | [last] => last
  | first :: rest => both first (sequence rest)

/-- A choice of patterns. -/
def choice : List Pattern → Pattern
  | [] => empty
  | [last] => last
  | first :: rest => either first (choice rest)

/-- Roughly the number of states that a machine for the pattern has. -/
def weight : Pattern → Nat
  | empty => 0
  | one set => if set.isAscii then 1 else 8
  | place _ => 1
  | both first second => first.weight + second.weight
  | either left right => left.weight + right.weight + 1
  | repeated least none body => (max least 1) * body.weight + 1
  | repeated least (some most) body => (max least most) * body.weight + (most - least)

end Pattern

end PortKnock
