/-!
# Sets of characters

A set is the expression that it is written as; `contains` evaluates it for a
character.
-/

namespace PortKnock.Pattern

inductive CharSet
  | empty
  | range (first last : Char)
  | union (one other : CharSet)
  | intersection (one other : CharSet)
  | difference (one other : CharSet)
  | symmetricDifference (one other : CharSet)
  | complement (set : CharSet)
  /-- With every letter of ASCII also the other case of it. -/
  | anyCase (set : CharSet)
  deriving DecidableEq, Repr

namespace CharSet

/-- The other case of a letter of ASCII. -/
def otherCase (c : Char) : Char :=
  if c.isUpper then c.toLower else c.toUpper

def contains : CharSet → Char → Bool
  | empty, _ => false
  | range first last, c => first ≤ c && c ≤ last
  | union one other, c => one.contains c || other.contains c
  | intersection one other, c => one.contains c && other.contains c
  | difference one other, c => one.contains c && !other.contains c
  | symmetricDifference one other, c => one.contains c != other.contains c
  | complement set, c => !set.contains c
  | anyCase set, c => set.contains c || set.contains (otherCase c)

def single (c : Char) : CharSet := range c c

def all : CharSet := complement empty

/-- Whether only characters of ASCII are contained. -/
def isAscii : CharSet → Bool
  | empty => true
  | range first last => last < '\x80' || last < first
  | union one other => one.isAscii && other.isAscii
  | intersection one other => one.isAscii || other.isAscii
  | difference one _ => one.isAscii
  | symmetricDifference one other => one.isAscii && other.isAscii
  | complement _ => false
  | anyCase set => set.isAscii

/-- The set of the ranges with the given ends. -/
def ofRanges (ranges : List (Char × Char)) : CharSet :=
  ranges.foldl (fun set (first, last) => union set (range first last)) empty

/-! ## Classes of ASCII -/

def digit : CharSet := range '0' '9'

def word : CharSet := ofRanges [('0', '9'), ('A', 'Z'), ('_', '_'), ('a', 'z')]

def space : CharSet := ofRanges [('\t', '\t'), ('\n', '\n'), ('\x0b', '\x0b'), ('\x0c', '\x0c'),
  ('\r', '\r'), (' ', ' ')]

/-- The class with the given name. -/
def named? (name : String) : Option CharSet :=
  match name with
  | "alnum" => some (ofRanges [('0', '9'), ('A', 'Z'), ('a', 'z')])
  | "alpha" => some (ofRanges [('A', 'Z'), ('a', 'z')])
  | "ascii" => some (range '\x00' '\x7f')
  | "blank" => some (ofRanges [('\t', '\t'), (' ', ' ')])
  | "cntrl" => some (ofRanges [('\x00', '\x1f'), ('\x7f', '\x7f')])
  | "digit" => some digit
  | "graph" => some (range '!' '~')
  | "lower" => some (range 'a' 'z')
  | "print" => some (range ' ' '~')
  | "punct" => some (ofRanges [('!', '/'), (':', '@'), ('[', '\x60'), ('\x7b', '~')])
  | "space" => some space
  | "upper" => some (range 'A' 'Z')
  | "word" => some word
  | "xdigit" => some (ofRanges [('0', '9'), ('A', 'F'), ('a', 'f')])
  | _ => none

end CharSet

end PortKnock.Pattern
