import PortKnock.Text.Quoted
import PortKnock.Decimal.Shortest

/-!
# What can be wrong with a JSON text

A problem is a cause together with the place where it was noticed.  The place
is kept as the number of octets of the text that were not read yet, so that a
reader of the rest of a text needs no counter; `Problem.locate` turns it into
a line and a column.

Two places are in use.  A problem noticed `here` lies before the rest of the
text.  One noticed at the `next` octet counts this octet as read, unless the
text is at its end.
-/

namespace PortKnock.Json

/-- A value where another kind of value was expected. -/
inductive Found
  | null
  | boolean (value : Bool)
  | integer (value : Int)
  | float (value : Float)
  | text (value : String)
  | sequence
  | map

inductive Cause
  | expectedValue
  | expectedIdent
  | expectedColon
  | expectedCommaOrListEnd
  | expectedCommaOrObjectEnd
  | endInValue
  | endInString
  | endInList
  | endInObject
  | keyNotString
  | trailingComma
  | trailingCharacters
  | invalidNumber
  | numberOutOfRange
  | invalidEscape
  | controlCharacter
  | loneSurrogate
  | endOfEscape
  /-- A value of another type than the expected one. -/
  | invalidType (found : Found) (expected : String)
  /-- A value of the expected type that is not allowed. -/
  | invalidValue (found : Found) (expected : String)
  /-- A member name that occurs twice. -/
  | duplicateField (name : String)
  /-- A name that is none of the two that are allowed. -/
  | unknownVariant (name first second : String)

def Found.describe : Found → String
  | null => "null"
  | boolean true => "boolean `true`"
  | boolean false => "boolean `false`"
  | integer value => "integer `" ++ toString value ++ "`"
  | float value => "floating point `" ++ Decimal.shortestText value ++ "`"
  | text value => "string " ++ Text.quoted value
  | sequence => "sequence"
  | map => "map"

def Cause.message : Cause → String
  | expectedValue => "expected value"
  | expectedIdent => "expected ident"
  | expectedColon => "expected `:`"
  | expectedCommaOrListEnd => "expected `,` or `]`"
  | expectedCommaOrObjectEnd => "expected `,` or `\x7d`"
  | endInValue => "EOF while parsing a value"
  | endInString => "EOF while parsing a string"
  | endInList => "EOF while parsing a list"
  | endInObject => "EOF while parsing an object"
  | keyNotString => "key must be a string"
  | trailingComma => "trailing comma"
  | trailingCharacters => "trailing characters"
  | invalidNumber => "invalid number"
  | numberOutOfRange => "number out of range"
  | invalidEscape => "invalid escape"
  | controlCharacter => "control character (\\u0000-\\u001F) found while parsing a string"
  | loneSurrogate => "lone leading surrogate in hex escape"
  | endOfEscape => "unexpected end of hex escape"
  | invalidType found expected => "invalid type: " ++ found.describe ++ ", expected " ++ expected
  | invalidValue found expected => "invalid value: " ++ found.describe ++ ", expected " ++ expected
  | duplicateField name => "duplicate field `" ++ name ++ "`"
  | unknownVariant name first second =>
    "unknown variant `" ++ name ++ "`, expected `" ++ first ++ "` or `" ++ second ++ "`"

/-- Octets that characters take in UTF-8. -/
def octetCount (text : List Char) : Nat :=
  text.foldl (fun count c => count + c.utf8Size) 0

structure Problem where
  cause : Cause
  /-- Octets of the text that were not read yet. -/
  left : Nat

namespace Problem

/-- A problem before `rest`, what is left of the text. -/
def here (cause : Cause) (rest : List Char) : Problem :=
  ⟨cause, octetCount rest⟩

/-- A problem behind the first octet of `rest`, or at the end of the text. -/
def next (cause : Cause) (rest : List Char) : Problem :=
  ⟨cause, octetCount rest - 1⟩

/-- Line and column behind the first `offset` octets of a text, counted on from the given ones.
A column is the number of octets since the last line feed. -/
def locate : (text : List Char) → (offset line column : Nat) → Nat × Nat
  | [], _, line, column => (line, column)
  | c :: rest, offset, line, column =>
    if offset = 0 then (line, column)
    else if c = '\n' then locate rest (offset - 1) (line + 1) 0
    else locate rest (offset - c.utf8Size) line (column + min offset c.utf8Size)

/-- The wording of a problem of `text`. -/
def message (problem : Problem) (text : List Char) : String :=
  let (line, column) := locate text (octetCount text - problem.left) 1 0
  problem.cause.message ++ " at line " ++ toString line ++ " column " ++ toString column

end Problem

end PortKnock.Json
