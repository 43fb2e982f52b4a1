import PortKnock.Text.Hanging
import PortKnock.Text.Plain

/-!
# Log lines

What the programs report besides their output.  Lines have a level and an
origin, the part of the program that speaks.  A program does not write its
lines, it hands them to a `Reporter`.
-/

namespace PortKnock.Log

inductive Level
  | error
  | warn
  | info
  | debug
  | trace
  deriving DecidableEq, Repr

namespace Level

def name : Level → String
  | error => "ERROR"
  | warn => "WARN"
  | info => "INFO"
  | debug => "DEBUG"
  | trace => "TRACE"

/-- How much is shown at this level and the ones before it: more for a higher number. -/
def verbosity : Level → Nat
  | error => 1
  | warn => 2
  | info => 3
  | debug => 4
  | trace => 5

end Level

/-- The part of the programs that a line comes from. -/
inductive Origin
  /-- The daemon itself. -/
  | daemon
  | configuration
  | receiver
  | loader
  /-- The program that sends knocks. -/
  | sender
  deriving DecidableEq, Repr

/-- The path by which an origin is shown and filtered. -/
def Origin.path : Origin → String
  | daemon => "knockd"
  | configuration => "knockd::knock_utils::shared::types_and_config"
  | receiver => "knockd::knock_utils::receiving_knocks::receiver"
  | loader => "knockd::knock_utils::capturing_frames::xdp_loader"
  | sender => "knock"

structure Line where
  level : Level
  origin : Origin
  text : String
  deriving DecidableEq, Repr

/-- Level and text. -/
def Line.brief (line : Line) : String :=
  line.level.name ++ " " ++ line.text

/-- Level, padded to five characters, origin and text, which hangs if it has several lines, as a
line that is written to a stream. -/
def Line.record (line : Line) : String :=
  let level := line.level.name
  let padding := String.ofList (List.replicate (5 - level.length) ' ')
  Text.streamed ("[" ++ level ++ padding ++ " " ++ line.origin.path ++ "] "
    ++ Text.hanging line.text ++ "\n")

/-! ## Reporting -/

/-- Where a program reports to. -/
structure Reporter (m : Type → Type) where
  /-- Makes ready; comes before the first line. -/
  start : m Unit
  line : Line → m Unit

namespace Reporter

/-- Reports nothing. -/
def silent {m : Type → Type} [Monad m] : Reporter m where
  start := return ()
  line _ := return ()

/-- Keeps all lines, oldest first. -/
def recorder : Reporter (StateM (List Line)) where
  start := return ()
  line line := modify (· ++ [line])

end Reporter

end PortKnock.Log
