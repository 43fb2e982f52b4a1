/-!
# What is wrong with patterns

A problem says what is wrong and points at a stretch of the pattern; a problem
about a repetition of something also points at the first of its kind.
-/

namespace PortKnock.Pattern

/-- A stretch of a pattern, from the character of one number up to that of another. -/
structure Span where
  first : Nat
  past : Nat
  deriving DecidableEq, Repr

inductive Complaint
  | classEscapeInvalid
  | classRangeInvalid
  | classRangeNotLiteral
  | classUnclosed
  | countInvalid
  | countMissing
  | countOutOfOrder
  | countUnclosed
  | escapeUnfinished
  | escapeUnknown
  | flagDuplicate
  | flagNegationDangling
  | flagNegationRepeated
  | flagUnfinished
  | flagUnknown
  | groupNameDuplicate
  | groupNameEmpty
  | groupNameInvalid
  | groupNameUnfinished
  | groupUnclosed
  | groupUnopened
  | hexDigitInvalid
  | hexEmpty
  | hexInvalid
  | lookAround
  | backreference
  | nothingToRepeat
  | propertyInvalid
  | boundaryUnclosed
  | boundaryUnfinished
  | boundaryUnknown
  /-- Characters outside ASCII have no place where text is taken for octets. -/
  | outsideAscii
  /-- A match could be something else than text. -/
  | invalidText
  | noCaseTable
  | noClassTable
  | noPropertyTable
  deriving DecidableEq, Repr

def Complaint.message : Complaint → String
  | classEscapeInvalid => "invalid escape sequence found in character class"
  | classRangeInvalid =>
    "invalid character class range, the start must be <= the end"
  | classRangeNotLiteral => "invalid range boundary, must be a literal"
  | classUnclosed => "unclosed character class"
  | countInvalid => "decimal literal invalid"
  | countMissing => "repetition quantifier expects a valid decimal"
  | countOutOfOrder =>
    "invalid repetition count range, the start must be <= the end"
  | countUnclosed => "unclosed counted repetition"
  | escapeUnfinished =>
    "incomplete escape sequence, reached end of pattern prematurely"
  | escapeUnknown => "unrecognized escape sequence"
  | flagDuplicate => "duplicate flag"
  | flagNegationDangling => "dangling flag negation operator"
  | flagNegationRepeated => "flag negation operator repeated"
  | flagUnfinished => "expected flag but got end of regex"
  | flagUnknown => "unrecognized flag"
  | groupNameDuplicate => "duplicate capture group name"
  | groupNameEmpty => "empty capture group name"
  | groupNameInvalid => "invalid capture group character"
  | groupNameUnfinished => "unclosed capture group name"
  | groupUnclosed => "unclosed group"
  | groupUnopened => "unopened group"
  | hexDigitInvalid => "invalid hexadecimal digit"
  | hexEmpty => "hexadecimal literal empty"
  | hexInvalid => "hexadecimal literal is not a Unicode scalar value"
  | lookAround => "look-around, including look-ahead and look-behind, is not supported"
  | backreference => "backreferences are not supported"
  | nothingToRepeat => "repetition operator missing expression"
  | propertyInvalid => "invalid Unicode character class"
  | boundaryUnclosed =>
    "special word boundary assertion is either unclosed or contains an invalid character"
  | boundaryUnfinished =>
    "found either the beginning of a special word boundary or a bounded repetition on a \\b with "
      ++ "an opening brace, but no closing brace"
  | boundaryUnknown =>
    "unrecognized special word boundary assertion, valid choices are: start, end, start-half or "
      ++ "end-half"
  | outsideAscii => "Unicode not allowed here"
  | invalidText => "pattern can match invalid UTF-8"
  | noCaseTable =>
    "Unicode-aware case insensitivity matching is not available (make sure the unicode-case "
      ++ "feature is enabled)"
  | noClassTable =>
    "Unicode-aware Perl class not found (make sure the unicode-perl feature is enabled)"
  | noPropertyTable => "Unicode property not found"

structure Problem where
  complaint : Complaint
  span : Span
  /-- The first of what must not be given twice. -/
  original? : Option Span := none
  deriving DecidableEq, Repr

namespace Problem

/-! ## Pointing at stretches -/

/-- The number of the line and the number of characters in front of a character in its line. -/
def locate (pattern : List Char) (place : Nat) : Nat × Nat :=
  let before := pattern.take place
  (before.count '\n', (before.reverse.takeWhile (· != '\n')).length)

/-- Marks below a line: one for each character of the stretches that lie in it, and at least one
for each stretch.  `width` is the number of characters written so far. -/
def marks : (width : Nat) → List (Nat × Nat) → String
  | _, [] => ""
  | width, (first, past) :: stretches =>
    let length := max 1 (past - first)
    String.ofList (List.replicate (first - width) ' ' ++ List.replicate length '^')
      ++ marks (max width first + length) stretches

/-- A line of a pattern, behind its number if there are several lines, with marks below it. -/
def notate (stretches : List (Nat × Nat)) (label : String) (line : String) : String :=
  let pointers :=
    if stretches.isEmpty then ""
    else String.ofList (List.replicate label.length ' ') ++ marks 0 stretches ++ "\n"
  label ++ line ++ "\n" ++ pointers

/-- The text of a problem with a pattern. -/
def message (problem : Problem) (text : String) : String :=
  let pattern := text.toList
  let lines := text.splitOn "\n"
  let spans := (problem.span :: problem.original?.toList).mergeSort fun one other =>
    one.first ≤ other.first
  let located := spans.map fun span => (locate pattern span.first, locate pattern span.past)
  let stretches (number : Nat) : List (Nat × Nat) :=
    located.filterMap fun (first, past) =>
      if first.1 = number && past.1 = number then some (first.2, past.2) else none
  let digits := (toString lines.length).length
  let label (number : Nat) : String :=
    if lines.length = 1 then "    "
    else
      let shown := toString (number + 1)
      String.ofList (List.replicate (digits - shown.length) ' ') ++ shown ++ ": "
  let shownLines := if text.endsWith "\n" then lines.dropLast else lines
  let notated := String.join (shownLines.mapIdx fun number line =>
    notate (stretches number) (label number) line)
  let body :=
    if lines.length = 1 then notated
    else
      let divider := String.ofList (List.replicate 79 '~') ++ "\n"
      let notes := located.filterMap fun (first, past) =>
        if first.1 = past.1 then none
        else some ("on line " ++ toString (first.1 + 1) ++ " (column " ++ toString (first.2 + 1)
          ++ ") through line " ++ toString (past.1 + 1) ++ " (column "
          ++ toString past.2 ++ ")\n")
      divider ++ notated ++ divider ++ String.join notes
  "regex parse error:\n" ++ body ++ "error: " ++ problem.complaint.message

end Problem

end PortKnock.Pattern
