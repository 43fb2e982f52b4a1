/-!
# Plain text

What a text says without the sequences that only a terminal obeys: colours,
titles, movements and the like.  A terminal is in a `TerminalMode`, and which
characters it shows depends on the mode.

White space that stands inside a sequence is shown.  `Text.plain` takes the
sequence for broken off there; `Text.streamed`, the text as it comes out of a
stream, goes on with the sequence at the next character that is not shown.
-/

namespace PortKnock.Text

/-- What a terminal is reading. -/
inductive TerminalMode
  /-- Characters to show. -/
  | text
  /-- What follows an escape character. -/
  | escape
  /-- What follows intermediate characters behind an escape character. -/
  | escapeIntermediate
  /-- A control sequence, up to its final character. -/
  | sequence
  /-- The start of a device control string. -/
  | deviceEntry
  | deviceParameters
  | deviceIntermediate
  /-- A control string, up to its terminator. -/
  | controlString
  /-- A command to the operating system, up to a bell. -/
  | systemCommand
  deriving DecidableEq, Repr

/-- White space that has an effect in almost every mode. -/
def isLayout (c : Char) : Bool :=
  ['\t', '\n', '\x0c', '\r'].contains c

/-- Whether one of the octets behind the first one of a character is the string terminator. -/
def holdsTerminator (c : Char) : Bool :=
  (String.singleton c).toUTF8.toList.drop 1 |>.contains 0x9c

namespace TerminalMode

def between (first last c : Char) : Bool :=
  first ≤ c && c ≤ last

/-- The mode behind a character that is not shown. -/
def next (mode : TerminalMode) (c : Char) : TerminalMode :=
  if c = '\x18' || c = '\x1a' then text
  else if c = '\x1b' then escape
  else
    match mode with
    | text => text
    | escape =>
      match c with
      | '[' => sequence
      | ']' => systemCommand
      | 'P' => deviceEntry
      | 'X' | '^' | '_' => controlString
      | c =>
        if between ' ' '/' c then escapeIntermediate
        else if between '0' '~' c then text
        else escape
    | escapeIntermediate => if between '0' '~' c then text else escapeIntermediate
    | sequence => if between '@' '~' c then text else sequence
    | deviceEntry =>
      if between ' ' '/' c then deviceIntermediate
      else if between '0' '?' c then deviceParameters
      else if between '@' '~' c then controlString
      else deviceEntry
    | deviceParameters =>
      if between ' ' '/' c then deviceIntermediate
      else if between '<' '~' c then controlString
      else deviceParameters
    | deviceIntermediate => if between '0' '~' c then controlString else deviceIntermediate
    | controlString => if holdsTerminator c then text else controlString
    | systemCommand => if c = '\x07' then text else systemCommand

def shows (mode : TerminalMode) (c : Char) : Bool :=
  match mode with
  | text => isLayout c || ' ' ≤ c && c != '\x7f'
  | escape | escapeIntermediate | sequence => isLayout c
  | deviceEntry | deviceParameters | deviceIntermediate | controlString | systemCommand => false

end TerminalMode

/-- What is shown of a text that is read as a whole, from a mode on.  Of a character outside
ASCII that stands inside a sequence the octets behind the first one are left over. -/
def shown : TerminalMode → List Char → List Char
  | _, [] => []
  | mode, c :: rest =>
    if mode.shows c then c :: shown .text rest
    else if c.toNat < 0x80 then shown (mode.next c) rest
    else List.replicate (c.utf8Size - 1) '\ufffd' ++ shown .text rest

/-- What is shown of a text that is read from a stream.  While characters are shown, the mode is
the one of a sequence that is still to be gone on with. -/
def streamedFrom (showing : Bool) : TerminalMode → List Char → List Char
  | _, [] => []
  | mode, c :: rest =>
    if (if showing then .text else mode).shows c then
      c :: streamedFrom true (if c.toNat < 0x80 then mode else .text) rest
    else streamedFrom false (mode.next c) rest

/-- The text without what only a terminal obeys. -/
def plain (text : String) : String :=
  String.ofList (shown .text text.toList)

/-- The text as it comes out of a stream that is no terminal. -/
def streamed (text : String) : String :=
  String.ofList (streamedFrom false .text text.toList)

end PortKnock.Text
