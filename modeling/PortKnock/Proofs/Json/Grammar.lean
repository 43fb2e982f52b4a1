/-!
# The grammar of JSON

What a JSON text is and what it says, without regard to how anybody reads it.
All relations here have the same shape: `text` begins with something, and
`rest` is what stands behind it.  So a whole text is one that leaves nothing
over (`Document`), and nothing has to be cut out of a text to talk about a part
of it.

The grammar leaves open what JSON leaves open: blanks between the parts, the
order of members, and the spelling of strings, in which every character may be
escaped by the number of its UTF-16 unit, or of its two units.
-/

namespace PortKnock.Json

/-- A JSON value. -/
inductive Value
  | null
  | boolean (value : Bool)
  /-- A number, with its value if it is written in digits only. -/
  | number (plain : Option Nat)
  | text (value : String)
  | list (elements : List Value)
  /-- The members in their order, with their names as they read without escapes. -/
  | object (members : List (String × Value))

/-! ## Blanks -/

/-- Only blanks stand between `text` and `rest`. -/
inductive Blanks : (text rest : List Char) → Prop
  | none {rest : List Char} : Blanks rest rest
  | more {c : Char} {text rest : List Char} (hblank : c ∈ [' ', '\t', '\n', '\r'])
      (blanks : Blanks text rest) : Blanks (c :: text) rest

/-! ## Strings -/

/-- A hexadecimal digit, in lower or in upper case. -/
def HexDigit (c : Char) (value : Nat) : Prop :=
  value < 16 ∧ (c = Nat.digitChar value ∨ c = (Nat.digitChar value).toUpper)

/-- Four hexadecimal digits, the most significant one first. -/
inductive HexText : (text : List Char) → (value : Nat) → (rest : List Char) → Prop
  | digits {a b c d : Char} {i j k l : Nat} {rest : List Char} (ha : HexDigit a i)
      (hb : HexDigit b j) (hc : HexDigit c k) (hd : HexDigit d l) :
    HexText (a :: b :: c :: d :: rest) (4096 * i + 256 * j + 16 * k + l) rest

/-- The letters that stand behind a backslash for a character. -/
def shortEscapes : List (Char × Char) :=
  [('"', '"'), ('\\', '\\'), ('/', '/'), ('b', '\x08'), ('f', '\x0c'), ('n', '\n'), ('r', '\r'),
    ('t', '\t')]

/-- One character of a string. -/
inductive CharText : (text : List Char) → (c : Char) → (rest : List Char) → Prop
  | plain {c : Char} {rest : List Char} (hquote : c ≠ '"') (hbackslash : c ≠ '\\')
      (hcontrol : 0x20 ≤ c.toNat) : CharText (c :: rest) c rest
  | short {letter c : Char} {rest : List Char} (hletter : (letter, c) ∈ shortEscapes) :
    CharText ('\\' :: letter :: rest) c rest
  | unit {c : Char} {text rest : List Char} (hunit : HexText text c.toNat rest) :
    CharText ('\\' :: 'u' :: text) c rest
  /-- A character beyond the first plane, as a pair of surrogates. -/
  | pair {c : Char} {high low : Nat} {text middle rest : List Char} (hhigh : high < 0x400)
      (hlow : low < 0x400) (hc : c.toNat = 0x10000 + 0x400 * high + low)
      (hleading : HexText text (0xd800 + high) ('\\' :: 'u' :: middle))
      (htrailing : HexText middle (0xdc00 + low) rest) : CharText ('\\' :: 'u' :: text) c rest

/-- The characters of a string behind its opening quote, and the closing one. -/
inductive StringText : (text cs rest : List Char) → Prop
  | close {rest : List Char} : StringText ('"' :: rest) [] rest
  | char {c : Char} {cs text middle rest : List Char} (hchar : CharText text c middle)
      (hmore : StringText middle cs rest) : StringText text (c :: cs) rest

/-! ## Numbers -/

/-- One digit or more. -/
inductive DigitsText : (text digits rest : List Char) → Prop
  | one {digit : Char} {rest : List Char} (hdigit : digit.isDigit = true) :
    DigitsText (digit :: rest) [digit] rest
  | more {digit : Char} {text digits rest : List Char} (hdigit : digit.isDigit = true)
      (hmore : DigitsText text digits rest) : DigitsText (digit :: text) (digit :: digits) rest

inductive SignText : (text : List Char) → (negative : Bool) → (rest : List Char) → Prop
  | absent {rest : List Char} : SignText rest false rest
  | minus {rest : List Char} : SignText ('-' :: rest) true rest

/-- The whole part of a number, without needless zeros in front. -/
inductive WholeText : (text : List Char) → (value : Nat) → (rest : List Char) → Prop
  | zero {rest : List Char} : WholeText ('0' :: rest) 0 rest
  | positive {first : Char} {text digits rest : List Char} (hfirst : first ≠ '0')
      (hdigits : DigitsText (first :: text) digits rest) :
    WholeText (first :: text) (Nat.ofDigitChars 10 digits 0) rest

inductive FractionText : (text : List Char) → (present : Bool) → (rest : List Char) → Prop
  | absent {rest : List Char} : FractionText rest false rest
  | digits {text digits rest : List Char} (hdigits : DigitsText text digits rest) :
    FractionText ('.' :: text) true rest

inductive ExponentText : (text : List Char) → (present : Bool) → (rest : List Char) → Prop
  | absent {rest : List Char} : ExponentText rest false rest
  | digits {letter : Char} {sign text digits rest : List Char} (hletter : letter ∈ ['e', 'E'])
      (hsign : sign ∈ [[], ['+'], ['-']]) (hdigits : DigitsText text digits rest) :
    ExponentText (letter :: (sign ++ text)) true rest

/-- A number, with its value if neither sign nor fraction nor exponent is there. -/
inductive NumberText : (text : List Char) → (plain : Option Nat) → (rest : List Char) → Prop
  | parts {text behindSign behindWhole behindFraction rest : List Char}
      {negative fraction exponent : Bool} {value : Nat} (hsign : SignText text negative behindSign)
      (hwhole : WholeText behindSign value behindWhole)
      (hfraction : FractionText behindWhole fraction behindFraction)
      (hexponent : ExponentText behindFraction exponent rest) :
    NumberText text (if negative || fraction || exponent then none else some value) rest

/-! ## Values -/

/-- The name of a member, with its quotes and the colon behind it. -/
inductive NameText : (text : List Char) → (name : String) → (rest : List Char) → Prop
  | quoted {name : String} {text opened closed rest : List Char}
      (hbefore : Blanks text ('"' :: opened))
      (hname : StringText opened name.toList closed) (hcolon : Blanks closed (':' :: rest)) :
    NameText text name rest

/-- What values are made of.  Elements and members go up to the bracket that closes them. -/
inductive Part
  | value (value : Value)
  | elements (elements : List Value)
  | members (members : List (String × Value))

/-- A part as a text has it.  No blanks stand before a value. -/
inductive Written : (text : List Char) → (part : Part) → (rest : List Char) → Prop
  | wordNull {rest : List Char} : Written ('n' :: 'u' :: 'l' :: 'l' :: rest) (.value .null) rest
  | wordTrue {rest : List Char} :
    Written ('t' :: 'r' :: 'u' :: 'e' :: rest) (.value (.boolean true)) rest
  | wordFalse {rest : List Char} :
    Written ('f' :: 'a' :: 'l' :: 's' :: 'e' :: rest) (.value (.boolean false)) rest
  | number {text rest : List Char} {plain : Option Nat} (hnumber : NumberText text plain rest) :
    Written text (.value (.number plain)) rest
  | text {value : String} {text rest : List Char} (htext : StringText text value.toList rest) :
    Written ('"' :: text) (.value (.text value)) rest
  | emptyList {text rest : List Char} (hend : Blanks text (']' :: rest)) :
    Written ('[' :: text) (.value (.list [])) rest
  | list {elements : List Value} {text rest : List Char}
      (helements : Written text (.elements elements) rest) :
    Written ('[' :: text) (.value (.list elements)) rest
  | emptyObject {text rest : List Char} (hend : Blanks text ('\x7d' :: rest)) :
    Written ('\x7b' :: text) (.value (.object [])) rest
  | object {members : List (String × Value)} {text rest : List Char}
      (hmembers : Written text (.members members) rest) :
    Written ('\x7b' :: text) (.value (.object members)) rest
  | lastElement {value : Value} {text opened closed rest : List Char} (hbefore : Blanks text opened)
      (hvalue : Written opened (.value value) closed) (hend : Blanks closed (']' :: rest)) :
    Written text (.elements [value]) rest
  | element {value : Value} {elements : List Value} {text opened closed more rest : List Char}
      (hbefore : Blanks text opened) (hvalue : Written opened (.value value) closed)
      (hcomma : Blanks closed (',' :: more)) (hmore : Written more (.elements elements) rest) :
    Written text (.elements (value :: elements)) rest
  | lastMember {name : String} {value : Value} {text behind opened closed rest : List Char}
      (hname : NameText text name behind) (hbefore : Blanks behind opened)
      (hvalue : Written opened (.value value) closed) (hend : Blanks closed ('\x7d' :: rest)) :
    Written text (.members [(name, value)]) rest
  | member {name : String} {value : Value} {members : List (String × Value)}
      {text behind opened closed more rest : List Char} (hname : NameText text name behind)
      (hbefore : Blanks behind opened) (hvalue : Written opened (.value value) closed)
      (hcomma : Blanks closed (',' :: more)) (hmore : Written more (.members members) rest) :
    Written text (.members ((name, value) :: members)) rest

/-- A text that holds one value, and nothing else but blanks. -/
inductive Document : (text : List Char) → Value → Prop
  | value {value : Value} {text opened closed : List Char} (hbefore : Blanks text opened)
      (hvalue : Written opened (.value value) closed) (hend : Blanks closed []) :
    Document text value

end PortKnock.Json
