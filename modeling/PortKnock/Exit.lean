import PortKnock.CommandLine.Stop
import PortKnock.Text.Hanging

/-!
# How programs end

An exit code, what goes to the standard output, and what is said about a
failure.
-/

namespace PortKnock

/-- Why a program gives up: what it was about, if that is told, and the cause. -/
structure Defeat where
  context? : Option String
  cause : String
  deriving DecidableEq, Repr

/-- The cause stands alone or, indented, below its context. -/
def Defeat.text (defeat : Defeat) : String :=
  match defeat.context? with
  | none => "Error: " ++ defeat.cause ++ "\n"
  | some context =>
    "Error: " ++ context ++ "\n\nCaused by:\n    " ++ Text.hanging defeat.cause ++ "\n"

structure Exit where
  code : Nat
  output : String := ""
  /-- What goes to the standard error output behind the log. -/
  complaint : String := ""
  deriving DecidableEq, Repr

namespace Exit

def success (output : String) : Exit := { code := 0, output }

def ofDefeat (defeat : Defeat) : Exit := { code := 1, complaint := defeat.text }

/-- Help and version are output, a fault is a complaint. -/
def ofStop (stop : CommandLine.Stop) : Exit :=
  match stop with
  | .help text => { code := stop.exitCode, output := text }
  | .version text => { code := stop.exitCode, output := text }
  | .fault fault => { code := stop.exitCode, complaint := fault.message Text.streamed ++ "\n" }

end Exit

end PortKnock
