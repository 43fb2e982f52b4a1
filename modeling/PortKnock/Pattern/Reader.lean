import PortKnock.Pattern.Basic
import PortKnock.Pattern.Problem
import PortKnock.Text.WhiteSpace

/-!
# Reading patterns

Patterns are regular expressions.  A pattern that is not of the form is refused
at the first place where this shows.  If the form is right, the first part
counts for which there is no meaning: no tables about characters outside ASCII
are at hand, so that neither other cases of letters nor classes and word
boundaries which depend on them are known, unless text is taken for octets.
-/

namespace PortKnock.Pattern

/-! ## Flags -/

/-- What can be switched inside a pattern. -/
inductive Flag
  | anyCase
  | manyLines
  | dotMatchesAll
  | lazy
  | unicode
  | anyLineEnd
  | spaced
  deriving DecidableEq, Repr

def Flag.ofLetter? : Char → Option Flag
  | 'i' => some anyCase
  | 'm' => some manyLines
  | 's' => some dotMatchesAll
  | 'U' => some lazy
  | 'u' => some unicode
  | 'R' => some anyLineEnd
  | 'x' => some spaced
  | _ => none

/-- The flags that are on. -/
abbrev Flags := List Flag

def Flags.switch (flags : Flags) (flag : Flag) (on : Bool) : Flags :=
  if on then flag :: flags else flags.filter (· ≠ flag)

/-! ## Positions -/

/-- How far a pattern has been read. -/
structure Cursor where
  offset : Nat
  rest : List Char

namespace Cursor

/-- Behind the next characters. -/
def skip (cursor : Cursor) (count : Nat) : Cursor :=
  ⟨cursor.offset + min count cursor.rest.length, cursor.rest.drop count⟩

/-- Behind white space, and comments from a number sign to the end of the line. -/
def skipSpaceFrom (comment : Bool) (offset : Nat) : List Char → Cursor
  | [] => ⟨offset, []⟩
  | c :: rest =>
    if comment then skipSpaceFrom (c != '\n') (offset + 1) rest
    else if Text.isWhiteSpace c then skipSpaceFrom false (offset + 1) rest
    else if c = '#' then skipSpaceFrom true (offset + 1) rest
    else ⟨offset, c :: rest⟩

/-- Behind what has no meaning in a pattern that is spaced. -/
def skipSpace (flags : Flags) (cursor : Cursor) : Cursor :=
  if flags.contains .spaced then skipSpaceFrom false cursor.offset cursor.rest else cursor

/-- Behind the next characters and what has no meaning behind them. -/
def advance (flags : Flags) (cursor : Cursor) (count : Nat) : Cursor :=
  (cursor.skip count).skipSpace flags

/-- The stretch up to another cursor. -/
def upTo (cursor past : Cursor) : Span := ⟨cursor.offset, past.offset⟩

/-- The empty stretch. -/
def here (cursor : Cursor) : Span := ⟨cursor.offset, cursor.offset⟩

/-- The stretch of the next character. -/
def next (cursor : Cursor) : Span := ⟨cursor.offset, cursor.offset + 1⟩

def startsWith (cursor : Cursor) (text : String) : Bool :=
  text.toList.isPrefixOf cursor.rest

/-- How many of the next characters satisfy a condition. -/
def count (cursor : Cursor) (condition : Char → Bool) : Nat :=
  (cursor.rest.takeWhile condition).length

end Cursor

abbrev Read (α : Type) := Except Problem α

def complain {α : Type} (complaint : Complaint) (span : Span) : Read α :=
  .error { complaint, span }

/-! ## Numbers -/

def hexValue? (c : Char) : Option Nat :=
  if c.isDigit then some (c.toNat - 48)
  else if 'a' ≤ c && c ≤ 'f' then some (c.toNat - 87)
  else if 'A' ≤ c && c ≤ 'F' then some (c.toNat - 55)
  else none

/-- The character with the code point that the digits write, none without digits. -/
def scalar? (digits : List Nat) : Option Char :=
  let value := digits.foldl (fun value digit => 16 * value + digit) 0
  if digits.isEmpty || value ≥ 0x110000 || 0xd800 ≤ value && value < 0xe000 then none
  else some (Char.ofNat value)

/-- The digits of a number, with what has no meaning between them. -/
def readDigits (flags : Flags) : (fuel : Nat) → Cursor → List Char × Cursor
  | 0, cursor => ([], cursor)
  | fuel + 1, cursor =>
    match cursor.rest with
    | c :: _ =>
      if c.isDigit then
        let (digits, past) := readDigits flags fuel (cursor.advance flags 1)
        (c :: digits, past)
      else ([], cursor)
    | [] => ([], cursor)

/-- Behind white space. -/
def skipBlank (cursor : Cursor) : Cursor :=
  cursor.skip (cursor.count Text.isWhiteSpace)

/-- Reads a count, in any case up to the end of its digits. -/
def readCount (flags : Flags) (cursor : Cursor) : Read Nat × Cursor :=
  let start := skipBlank cursor
  let (digits, past) := readDigits flags start.rest.length start
  let value := digits.foldl (fun value digit => 10 * value + (digit.toNat - 48)) 0
  let count :=
    if digits.isEmpty then complain .countMissing (start.upTo past)
    else if value ≥ UInt32.size then complain .countInvalid (start.upTo past)
    else .ok value
  (count, (skipBlank past).skipSpace flags)

/-! ## Escapes -/

/-- The smallest parts of a pattern. -/
inductive Primitive
  | literal (c : Char)
  /-- A character that is given by two hexadecimal digits. -/
  | octet (c : Char)
  | place (place : Place)
  /-- A boundary of words. -/
  | boundary (place : Place)
  | dot
  /-- A class, or what is not in it. -/
  | named (set : CharSet) (negated : Bool)
  | property
  deriving DecidableEq, Repr

/-- A primitive and where it stands. -/
structure Located where
  primitive : Primitive
  span : Span

/-- Reads hexadecimal digits, a fixed number of them. -/
def readHexDigits (flags : Flags) (cursor : Cursor) :
    (count : Nat) → (digits : List Nat) → Read (List Nat × Cursor)
  | 0, digits => .ok (digits.reverse, cursor)
  | count + 1, digits =>
    match cursor.rest with
    | [] => complain .escapeUnfinished cursor.here
    | c :: _ =>
      match hexValue? c with
      | none => complain .hexDigitInvalid cursor.next
      | some digit => readHexDigits flags (cursor.advance flags 1) count (digit :: digits)

/-- Reads hexadecimal digits up to a brace. -/
def readHexBraced (flags : Flags) (brace : Cursor) :
    (fuel : Nat) → (cursor : Cursor) → (digits : List Nat) → Read (List Nat × Cursor)
  | 0, cursor, _ => complain .escapeUnfinished (brace.upTo cursor)
  | fuel + 1, cursor, digits =>
    match cursor.rest with
    | [] => complain .escapeUnfinished (brace.upTo cursor)
    | '\x7d' :: _ => .ok (digits.reverse, cursor)
    | c :: _ =>
      match hexValue? c with
      | none => complain .hexDigitInvalid cursor.next
      | some digit => readHexBraced flags brace fuel (cursor.advance flags 1) (digit :: digits)

/-- Reads a character that is given by its code point, from the letter that says how. -/
def readHex (flags : Flags) (letter : Char) (cursor : Cursor) : Read (Primitive × Cursor) := do
  let start := cursor.advance flags 1
  match start.rest with
  | [] => complain .escapeUnfinished start.here
  | '\x7b' :: _ =>
    let (digits, closing) ← readHexBraced flags start start.rest.length (start.advance flags 1) []
    let past := closing.advance flags 1
    if digits.isEmpty then complain .hexEmpty (start.upTo past)
    match scalar? digits with
    | some c => return (.literal c, past)
    | none => complain .hexInvalid ((start.skip 1).upTo closing)
  | _ =>
    let count := if letter = 'x' then 2 else if letter = 'u' then 4 else 8
    let (digits, past) ← readHexDigits flags start count []
    match scalar? digits with
    | some c => return (if letter = 'x' then .octet c else .literal c, past)
    | none => complain .hexInvalid (start.upTo past)

/-- Behind a name in braces. -/
def skipBraced (flags : Flags) : (fuel : Nat) → Cursor → Read Cursor
  | 0, cursor => complain .escapeUnfinished cursor.here
  | fuel + 1, cursor =>
    match cursor.rest with
    | [] => complain .escapeUnfinished cursor.here
    | '\x7d' :: _ => .ok (cursor.skip 1)
    | _ => skipBraced flags fuel (cursor.advance flags 1)

/-- Reads the name of a property, from the letter that announces it. -/
def readProperty (flags : Flags) (cursor : Cursor) : Read (Primitive × Cursor) := do
  let start := cursor.advance flags 1
  match start.rest with
  | [] => complain .escapeUnfinished start.here
  | '\x7b' :: _ =>
    return (.property, ← skipBraced flags start.rest.length (start.advance flags 1))
  | '\\' :: _ => complain .propertyInvalid start.next
  | _ => return (.property, start.advance flags 1)

/-- Reads the name of a special boundary of words, if there is one behind the brace. -/
def readBoundary (flags : Flags) (start brace : Cursor) : Read (Place × Cursor) := do
  let inName (c : Char) : Bool := c.isAlpha || c = '-'
  let contents := brace.advance flags 1
  if contents.rest.isEmpty then complain .boundaryUnfinished (start.upTo contents)
  if !contents.rest.head?.any inName then return (.wordBoundary, brace)
  let isIn (c : Char) : Bool := inName c || flags.contains .spaced && Text.isWhiteSpace c
  let closing := contents.skip (contents.count isIn)
  if closing.rest.head? != some '\x7d' then complain .boundaryUnclosed (brace.upTo closing)
  let name := (contents.rest.takeWhile isIn).filter inName
  let past := closing.skip 1
  match String.ofList name with
  | "start" => return (.wordStart, past)
  | "end" => return (.wordEnd, past)
  | "start-half" => return (.wordStartHalf, past)
  | "end-half" => return (.wordEndHalf, past)
  | _ => complain .boundaryUnknown (contents.upTo closing)

/-- What a letter stands for behind a backslash. -/
def escaped? (c : Char) : Option Primitive :=
  match c with
  | 'a' => some (.literal '\x07')
  | 'f' => some (.literal '\x0c')
  | 't' => some (.literal '\t')
  | 'n' => some (.literal '\n')
  | 'r' => some (.literal '\r')
  | 'v' => some (.literal '\x0b')
  | 'A' => some (.place .textStart)
  | 'z' => some (.place .textEnd)
  | 'B' => some (.boundary .noWordBoundary)
  | '<' => some (.boundary .wordStart)
  | '>' => some (.boundary .wordEnd)
  | 'd' => some (.named .digit false)
  | 'D' => some (.named .digit true)
  | 's' => some (.named .space false)
  | 'S' => some (.named .space true)
  | 'w' => some (.named .word false)
  | 'W' => some (.named .word true)
  | c => if c.toNat < 0x80 && !c.isAlphanum then some (.literal c) else none

/-- Reads from a backslash on. -/
def readEscape (flags : Flags) (start : Cursor) : Read (Located × Cursor) := do
  let cursor := start.skip 1
  let located (result : Primitive × Cursor) : Located × Cursor :=
    (⟨result.1, start.upTo result.2⟩, result.2)
  match cursor.rest with
  | [] => complain .escapeUnfinished (start.upTo cursor)
  | c :: _ =>
    let past := cursor.skip 1
    if c.isDigit then complain .backreference (start.upTo past)
    if c = 'x' || c = 'u' || c = 'U' then return located (← readHex flags c cursor)
    if c = 'p' || c = 'P' then return located (← readProperty flags cursor)
    if c = 'b' then
      if past.rest.head? = some '\x7b' then
        let (condition, past) ← readBoundary flags start past
        return located (.boundary condition, past)
      return located (.boundary .wordBoundary, past)
    match escaped? c with
    | some primitive => return located (primitive, past)
    | none => complain .escapeUnknown (start.upTo past)

/-- Reads a primitive outside classes. -/
def readPrimitive (flags : Flags) (cursor : Cursor) (c : Char) : Read (Located × Cursor) :=
  let simple (primitive : Primitive) : Read (Located × Cursor) :=
    .ok (⟨primitive, cursor.next⟩, cursor.skip 1)
  let manyLines := flags.contains .manyLines
  let anyLineEnd := flags.contains .anyLineEnd
  match c with
  | '\\' => readEscape flags cursor
  | '.' => simple .dot
  | '^' =>
    simple (.place (if !manyLines then .textStart else if anyLineEnd then .anyLineStart
      else .lineStart))
  | '$' =>
    simple (.place (if !manyLines then .textEnd else if anyLineEnd then .anyLineEnd
      else .lineEnd))
  | c => simple (.literal c)

/-! ## The meaning of primitives -/

/-- A value, and the first part of it, if any, that has no meaning. -/
structure Noted (α : Type) where
  value : α
  problem? : Option Problem := none

namespace Noted

variable {α : Type}

def require (noted : Noted α) (condition : Bool) (complaint : Complaint) (span : Span) :
    Noted α :=
  if condition then noted
  else { noted with problem? := noted.problem?.orElse fun _ => some { complaint, span } }

end Noted

/-- The set with both cases if asked for. -/
def inCase (flags : Flags) (set : CharSet) : CharSet :=
  if flags.contains .anyCase then .anyCase set else set

/-- The set, or what is not in it; without tables, letters have no other case, and text taken for
octets must not match octets that are no text. -/
def foldAndNegate (flags : Flags) (span : Span) (negated : Bool) (set : CharSet) :
    Noted CharSet :=
  let folded := inCase flags set
  let whole := if negated then .complement folded else folded
  if flags.contains .unicode then
    Noted.require ⟨whole, none⟩ (!flags.contains .anyCase) .noCaseTable span
  else Noted.require ⟨whole, none⟩ whole.isAscii .invalidText span

/-- The set of a primitive that stands for one character. -/
def Located.set? (flags : Flags) (located : Located) : Option (Noted CharSet) :=
  let unicode := flags.contains .unicode
  match located.primitive with
  | .literal c =>
    some (Noted.require ⟨.single c, none⟩ (unicode || c.toNat < 0x80) .outsideAscii located.span)
  | .octet c =>
    some (Noted.require ⟨.single c, none⟩ (unicode || c.toNat < 0x80) .invalidText located.span)
  | .named set negated =>
    if unicode then some (Noted.require ⟨set, none⟩ false .noClassTable located.span)
    else
      let whole := if negated then .complement set else set
      some (Noted.require ⟨whole, none⟩ whole.isAscii .invalidText located.span)
  | .property =>
    some (Noted.require ⟨.empty, none⟩ false
      (if unicode then .noPropertyTable else .outsideAscii) located.span)
  | .place _ | .boundary _ | .dot => none

/-- The pattern of a primitive.  That a boundary depends on tables is not noticed here. -/
def Located.pattern (flags : Flags) (located : Located) : Noted Pattern :=
  let unicode := flags.contains .unicode
  match located.primitive with
  | .place condition => ⟨.place condition, none⟩
  | .boundary condition => ⟨.place condition, none⟩
  | .dot =>
    let set : CharSet :=
      if flags.contains .dotMatchesAll then .all
      else if flags.contains .anyLineEnd then .complement (.ofRanges [('\n', '\n'), ('\r', '\r')])
      else .complement (.single '\n')
    Noted.require ⟨.one set, none⟩ unicode .invalidText located.span
  | .literal _ | .octet _ =>
    match located.set? flags with
    | none => ⟨.empty, none⟩
    | some set =>
      let set := set.require (!unicode || !flags.contains .anyCase) .noCaseTable located.span
      ⟨.one (inCase flags set.value), set.problem?⟩
  | .named _ _ | .property =>
    match located.set? flags with
    | none => ⟨.empty, none⟩
    | some set => ⟨.one set.value, set.problem?⟩

/-! ## Classes -/

/-- How the sets of a class are combined. -/
inductive SetOperator
  | intersection
  | difference
  | symmetricDifference
  deriving DecidableEq, Repr

def SetOperator.apply : SetOperator → CharSet → CharSet → CharSet
  | intersection => .intersection
  | difference => .difference
  | symmetricDifference => .symmetricDifference

/-- The items of a class that have been read since its start or the last operator. -/
structure Items where
  set : CharSet := .empty
  span? : Option Span := none

def Items.push (items : Items) (set : CharSet) (span : Span) : Items where
  set := .union items.set set
  span? := some ⟨(items.span?.getD span).first, span.past⟩

/-- A class of which the end has not been read. -/
structure OpenClass where
  start : Cursor
  /-- What is pointed at if there is no end. -/
  opening : Span
  negated : Bool
  left? : Option (SetOperator × Items) := none
  items : Items := {}
  problem? : Option Problem := none

namespace OpenClass

def note (state : OpenClass) (problem? : Option Problem) : OpenClass :=
  { state with problem? := state.problem?.orElse fun _ => problem? }

def push (state : OpenClass) (set : Noted CharSet) (span : Span) : OpenClass :=
  { state.note set.problem? with items := state.items.push set.value span }

/-- What has been read, with the last operator applied. -/
def combined (flags : Flags) (state : OpenClass) : Noted Items :=
  match state.left? with
  | none => ⟨state.items, state.problem?⟩
  | some (operator, left) =>
    let sides := if flags.contains .unicode && flags.contains .anyCase then
      [state.items.span?, left.span?].filterMap id else []
    let set := operator.apply (inCase flags left.set) (inCase flags state.items.set)
    let first := (left.span?.getD state.opening).first
    let past := (state.items.span?.getD state.opening).past
    ⟨⟨set, some ⟨first, past⟩⟩, state.problem?.orElse fun _ =>
      sides.head?.map fun span => { complaint := .noCaseTable, span }⟩

/-- Begins with what stands behind an operator. -/
def operate (flags : Flags) (state : OpenClass) (operator : SetOperator) : OpenClass :=
  let before := state.combined flags
  { state with left? := some (operator, before.value), items := {}, problem? := before.problem? }

/-- The whole class. -/
def close (flags : Flags) (state : OpenClass) (past : Cursor) : Noted CharSet :=
  let items := state.combined flags
  let whole := foldAndNegate flags (state.start.upTo past) state.negated items.value.set
  ⟨whole.value, items.problem?.orElse fun _ => whole.problem?⟩

/-- Dashes at the start of a class stand for themselves. -/
def pushDashes (flags : Flags) (state : OpenClass) : (fuel : Nat) → Cursor →
    Read (OpenClass × Cursor)
  | 0, cursor => .ok (state, cursor)
  | fuel + 1, cursor =>
    match cursor.rest with
    | '-' :: _ =>
      let behind := cursor.advance flags 1
      if behind.rest.isEmpty then complain .classUnclosed state.start.here
      else pushDashes flags (state.push ⟨.single '-', none⟩ cursor.next) fuel behind
    | _ => .ok (state, cursor)

/-- Opens a class at a bracket.  A closing bracket right at its start stands for itself. -/
def read (flags : Flags) (start : Cursor) : Read (OpenClass × Cursor) := do
  let cursor := start.advance flags 1
  if cursor.rest.isEmpty then complain .classUnclosed (start.upTo cursor)
  let negated := cursor.rest.head? == some '^'
  let cursor := if negated then cursor.advance flags 1 else cursor
  if cursor.rest.isEmpty then complain .classUnclosed (start.upTo cursor)
  let (state, cursor) ← pushDashes flags { start, opening := start.here, negated }
    cursor.rest.length cursor
  if state.items.span?.isNone && cursor.rest.head? == some ']' then
    let behind := cursor.advance flags 1
    if behind.rest.isEmpty then complain .classUnclosed (start.upTo behind)
    let state := state.push ⟨.single ']', none⟩ cursor.next
    return ({ state with opening := start.upTo behind }, behind)
  return ({ state with opening := start.upTo cursor }, cursor)

end OpenClass

/-- Reads a class that is given by name between colons, and whether it is negated. -/
def readNamed? (cursor : Cursor) : Option (CharSet × Bool × Cursor) :=
  match cursor.rest with
  | '[' :: ':' :: rest =>
    let negated := rest.head? == some '^'
    let start := cursor.skip (if negated then 3 else 2)
    let name := start.rest.takeWhile (· != ':')
    let closing := start.skip name.length
    if closing.startsWith ":]" then
      (CharSet.named? (String.ofList name)).map (·, negated, closing.skip 2)
    else none
  | _ => none

/-- Reads an item of a class that stands for itself or is escaped. -/
def readItem (flags : Flags) (cursor : Cursor) (c : Char) : Read (Located × Cursor) :=
  if c = '\\' then readEscape flags cursor
  else .ok (⟨.literal c, cursor.next⟩, cursor.skip 1)

/-- The character that an end of a range stands for. -/
def Located.literal (located : Located) : Read Char :=
  match located.primitive with
  | .literal c => .ok c
  | .octet c => .ok c
  | _ => complain .classRangeNotLiteral located.span

/-- Reads an item of a class or a range. -/
def readRange (flags : Flags) (state : OpenClass) (cursor : Cursor) (c : Char) :
    Read (OpenClass × Cursor) := do
  let (first, past) ← readItem flags cursor c
  let past := past.skipSpace flags
  if past.rest.isEmpty then complain .classUnclosed state.opening
  let behind := past.advance flags 1
  if past.rest.head? != some '-' || [some ']', some '-'].contains behind.rest.head? then
    match first.set? flags with
    | some set => return (state.push set first.span, past)
    | none => complain .classEscapeInvalid first.span
  else
    match behind.rest with
    | [] => complain .classUnclosed state.opening
    | d :: _ =>
      let (last, past) ← readItem flags behind d
      let span : Span := ⟨first.span.first, last.span.past⟩
      let low ← first.literal
      let high ← last.literal
      if high < low then complain .classRangeInvalid span
      let problem? := [first, last].findSome? fun located =>
        (located.set? flags).bind (·.problem?)
      return (state.push ⟨.range low high, problem?⟩ span, past)

/-- Reads the items of a class up to its end. -/
def readItems (flags : Flags) : (fuel : Nat) → OpenClass → Cursor →
    Read (Noted CharSet × Cursor)
  | 0, state, _ => complain .classUnclosed state.opening
  | fuel + 1, state, cursor => do
    let cursor := cursor.skipSpace flags
    match cursor.rest with
    | [] => complain .classUnclosed state.opening
    | '[' :: _ =>
      match readNamed? cursor with
      | some (set, negated, past) =>
        let span := cursor.upTo past
        readItems flags fuel (state.push (foldAndNegate flags span negated set) span) past
      | none =>
        let (inner, behind) ← OpenClass.read flags cursor
        let (set, past) ← readItems flags fuel inner behind
        readItems flags fuel (state.push set (cursor.upTo past)) past
    | ']' :: _ =>
      let past := cursor.skip 1
      return (state.close flags past, past)
    | '&' :: '&' :: _ => readItems flags fuel (state.operate flags .intersection) (cursor.skip 2)
    | '-' :: '-' :: _ => readItems flags fuel (state.operate flags .difference) (cursor.skip 2)
    | '~' :: '~' :: _ =>
      readItems flags fuel (state.operate flags .symmetricDifference) (cursor.skip 2)
    | c :: _ =>
      let (state, past) ← readRange flags state cursor c
      readItems flags fuel state past

/-- Reads a class from its bracket. -/
def readClass (flags : Flags) (cursor : Cursor) : Read (Noted CharSet × Cursor) := do
  let (state, behind) ← OpenClass.read flags cursor
  readItems flags cursor.rest.length state behind

/-! ## Groups -/

/-- Reads flags up to the end of a group's head or of the group, and where the character stands
that ends them. -/
def readFlags (flags : Flags) (seen : List (Option Flag × Span)) (dangling? : Option Span) :
    (fuel : Nat) → Cursor → Read (Flags × List (Option Flag × Span) × Cursor)
  | 0, cursor => complain .flagUnfinished cursor.here
  | fuel + 1, cursor => do
    match cursor.rest with
    | [] => complain .flagUnfinished cursor.here
    | c :: _ =>
      if c = ':' || c = ')' then
        match dangling? with
        | some span => complain .flagNegationDangling span
        | none => return (flags, seen, cursor)
      else
        let item ← if c = '-' then pure none
          else match Flag.ofLetter? c with
            | some flag => pure (some flag)
            | none => complain .flagUnknown cursor.next
        match seen.find? (·.1 == item) with
        | some (_, original) =>
          throw {
            complaint := if item.isNone then .flagNegationRepeated else .flagDuplicate
            span := cursor.next
            original? := some original }
        | none =>
          let on := !seen.any (·.1.isNone)
          let flags := match item with
            | some flag => flags.switch flag on
            | none => flags
          readFlags flags (seen ++ [(item, cursor.next)])
            (if item.isNone then some cursor.next else none) fuel (cursor.skip 1)

/-- Whether a character can stand in the name of a group. -/
def inGroupName (first : Bool) (c : Char) : Bool :=
  c = '_' || c.isAlpha || c.toNat ≥ 0x80 || !first && (c.isDigit || ['.', '[', ']'].contains c)

/-- Reads the name of a group up to the bracket behind it. -/
def readGroupName (start : Cursor) : Read (String × Span × Cursor) := do
  if start.rest.isEmpty then complain .groupNameUnfinished start.here
  let allowed := match start.rest with
    | c :: rest => if inGroupName true c then 1 + (rest.takeWhile (inGroupName false)).length else 0
    | [] => 0
  let cursor := start.skip allowed
  match cursor.rest with
  | [] => complain .groupNameUnfinished cursor.here
  | '>' :: _ =>
    if allowed = 0 then complain .groupNameEmpty start.here
    return (String.ofList (start.rest.take allowed), start.upTo cursor, cursor.skip 1)
  | _ => complain .groupNameInvalid cursor.next

/-! ## Patterns -/

/-- A group around the part of a pattern that is being read. -/
structure Enclosing where
  opening : Span
  /-- Items in front of the group, the last one first, nothing where flags stand. -/
  items : List (Option Pattern)
  /-- Choices in front of those, the last one first. -/
  choices : List Pattern
  flags : Flags

/-- How far the reading has come. -/
structure Progress where
  flags : Flags := [.unicode]
  items : List (Option Pattern) := []
  choices : List Pattern := []
  enclosing : List Enclosing := []
  names : List (String × Span) := []
  problem? : Option Problem := none
  /-- Whether there is a boundary of words that depends on tables. -/
  bounded : Bool := false

namespace Progress

def push (progress : Progress) (pattern : Noted Pattern) : Progress :=
  { progress with
    items := some pattern.value :: progress.items
    problem? := progress.problem?.orElse fun _ => pattern.problem? }

/-- The pattern that the items and choices make up. -/
def whole (progress : Progress) : Pattern :=
  let last := sequence (progress.items.reverse.filterMap id)
  choice (progress.choices.reverse ++ [last])

def beginChoice (progress : Progress) : Progress :=
  { progress with
    choices := sequence (progress.items.reverse.filterMap id) :: progress.choices
    items := [] }

/-- Goes into a group. -/
def enter (progress : Progress) (opening : Span) (flags : Flags) : Progress :=
  { progress with
    flags, items := [], choices := []
    enclosing := ⟨opening, progress.items, progress.choices, progress.flags⟩ ::
      progress.enclosing }

/-- Reads the head of a group, or flags that stand alone. -/
def readGroup (progress : Progress) (start : Cursor) : Read (Progress × Cursor) := do
  let opening := start.next
  let inner := start.advance progress.flags 1
  let lookAround? := ["?=", "?!", "?<=", "?<!"].find? inner.startsWith
  match lookAround? with
  | some head => complain .lookAround (start.upTo (inner.skip head.length))
  | none =>
    let nameAt? := if inner.startsWith "?P<" then some (inner.skip 3)
      else if inner.startsWith "?<" then some (inner.skip 2) else none
    match nameAt? with
    | some nameAt =>
      let (name, span, past) ← readGroupName nameAt
      match progress.names.find? (·.1 == name) with
      | some (_, original) =>
        throw { complaint := .groupNameDuplicate, span, original? := some original }
      | none =>
        let progress := { progress with names := (name, span) :: progress.names }
        return (progress.enter opening progress.flags, past)
    | none =>
      if inner.startsWith "?" then
        let cursor := inner.skip 1
        if cursor.rest.isEmpty then complain .groupUnclosed opening
        let (flags, seen, closing) ← readFlags progress.flags [] none
          (cursor.rest.length + 1) cursor
        let past := closing.skip 1
        if closing.startsWith ":" then return (progress.enter opening flags, past)
        if seen.isEmpty then complain .nothingToRepeat inner.here
        return ({ progress with flags, items := none :: progress.items }, past)
      else return (progress.enter opening progress.flags, inner)

/-- Leaves a group. -/
def leave (progress : Progress) (cursor : Cursor) : Read (Progress × Cursor) :=
  match progress.enclosing with
  | [] => complain .groupUnopened cursor.next
  | outer :: enclosing =>
    .ok ({ progress with
      flags := outer.flags
      items := some progress.whole :: outer.items
      choices := outer.choices
      enclosing }, cursor.skip 1)

/-- What a repetition repeats, and the items in front. -/
def repeatable (progress : Progress) (cursor : Cursor) :
    Read (Pattern × List (Option Pattern)) :=
  match progress.items with
  | some body :: items => .ok (body, items)
  | none :: _ => complain .nothingToRepeat cursor.here
  | [] => complain .nothingToRepeat cursor.here

/-- Repeats the last item. -/
def repeatLast (progress : Progress) (cursor : Cursor) (least : Nat) (most? : Option Nat) :
    Read (Progress × Cursor) := do
  let (body, items) ← progress.repeatable cursor
  let past := cursor.skip 1
  let past := if past.startsWith "?" then past.skip 1 else past
  return ({ progress with items := some (.repeated least most? body) :: items }, past)

/-- Repeats the last item as often as the counts in braces say. -/
def repeatCounted (progress : Progress) (start : Cursor) : Read (Progress × Cursor) := do
  let flags := progress.flags
  let (body, items) ← progress.repeatable start
  let unclosed {α : Type} (cursor : Cursor) : Read α := complain .countUnclosed (start.upTo cursor)
  let cursor := start.advance flags 1
  if cursor.rest.isEmpty then unclosed cursor
  let (least, cursor) := readCount flags cursor
  if cursor.rest.isEmpty then unclosed cursor
  let (least, most?, cursor) ←
    if cursor.rest.head? != some ',' then do
      let count ← least
      pure (count, some count, cursor)
    else
      let cursor := cursor.advance flags 1
      if cursor.rest.isEmpty then unclosed cursor
      else if cursor.rest.head? != some '\x7d' then
        let least ← least
        let (most, cursor) := readCount flags cursor
        pure (least, some (← most), cursor)
      else pure (← least, none, cursor)
  if cursor.rest.head? != some '\x7d' then unclosed cursor
  let past := cursor.advance flags 1
  let past := if past.startsWith "?" then past.skip 1 else past
  if most?.any (· < least) then complain .countOutOfOrder (start.upTo past)
  return ({ progress with items := some (.repeated least most? body) :: items }, past)

/-- Reads up to the end of the pattern. -/
def readOn : (fuel : Nat) → Progress → Cursor → Read Progress
  | 0, progress, _ => .ok progress
  | fuel + 1, progress, cursor => do
    let cursor := cursor.skipSpace progress.flags
    let (progress, cursor) ←
      match cursor.rest with
      | [] => return progress
      | '(' :: _ => progress.readGroup cursor
      | ')' :: _ => progress.leave cursor
      | '|' :: _ => pure (progress.beginChoice, cursor.skip 1)
      | '[' :: _ =>
        let (set, past) ← readClass progress.flags cursor
        pure (progress.push ⟨.one set.value, set.problem?⟩, past)
      | '?' :: _ => progress.repeatLast cursor 0 (some 1)
      | '*' :: _ => progress.repeatLast cursor 0 none
      | '+' :: _ => progress.repeatLast cursor 1 none
      | '\x7b' :: _ => progress.repeatCounted cursor
      | c :: _ =>
        let (located, past) ← readPrimitive progress.flags cursor c
        let depends := match located.primitive with
          | .boundary _ => progress.flags.contains .unicode
          | _ => false
        let progress := { progress with bounded := progress.bounded || depends }
        pure (progress.push (located.pattern progress.flags), past)
    readOn fuel progress cursor

end Progress

/-- Why a text is no pattern. -/
inductive Refusal
  | malformed (problem : Problem) (text : String)
  | tooLarge
  /-- There are no tables for the boundaries of words. -/
  | noMachine
  deriving DecidableEq, Repr

def Refusal.message : Refusal → String
  | malformed problem text => problem.message text
  | tooLarge => "Compiled regex exceeds size limit of 10485760 bytes."
  | noMachine => "error building NFA"

/-- The greatest weight of a pattern: so many states of 32 octets are allowed. -/
def weightLimit : Nat := 10485760 / 32

/-- Reads a pattern. -/
def ofText (text : String) : Except Refusal Pattern :=
  match Progress.readOn (text.length + 1) {} ⟨0, text.toList⟩ with
  | .error problem => .error (.malformed problem text)
  | .ok progress =>
    match progress.enclosing, progress.problem? with
    | inner :: _, _ =>
      .error (.malformed { complaint := .groupUnclosed, span := inner.opening } text)
    | [], some problem => .error (.malformed problem text)
    | [], none =>
      if progress.whole.weight > weightLimit then .error .tooLarge
      else if progress.bounded then .error .noMachine
      else .ok progress.whole

end PortKnock.Pattern
