import PortKnock.Daemon.Run
import PortKnock.Sender.Run

/-!
# The programs

Both programs in one: called by the name of the sender it sends knocks, called
by any other name it is the daemon.  Of the machine it uses the files, the
environment and the standard streams, and otherwise behaves as on a machine that
has neither a network nor access to the kernel.
-/

namespace PortKnock.Main

/-- The error of the operating system behind an error of an input or output action. -/
def osError (error : IO.Error) : OsError :=
  match error with
  | .noFileOrDirectory _ code text
  | .inappropriateType _ code text
  | .invalidArgument _ code text
  | .permissionDenied _ code text
  | .resourceExhausted _ code text
  | .noSuchThing _ code text
  | .alreadyExists _ code text
  | .interrupted _ code text
  | .otherError code text
  | .resourceBusy code text
  | .hardwareFault code text => ⟨code.toNat, "", text⟩
  | other => ⟨5, "EIO", toString other⟩

/-- The content of a file. -/
def readFile (path : String) : IO (Except FileTree.ReadError ByteArray) := do
  if path.contains '\x00' then return .error .zeroInPath
  try
    return .ok (← IO.FS.readBinFile path)
  catch error =>
    return .error (.system (osError error))

/-- Files that cannot be read are there as well. -/
def isFile (path : String) : IO Bool := do
  match ← readFile path with
  | .ok _ => return true
  | .error (.system error) =>
    return !([OsError.noSuchFile, .isADirectory, .notADirectory, .nameTooLong].any
      fun absent => absent.code == error.code)
  | .error _ => return false

def files : FileAccess IO where
  isFile
  read := readFile

/-- Shows the lines that the environment asks for. -/
def log : IO (Log.Reporter IO) :=
  return .ofFilterText IO.eprint ((← IO.getEnv "RUST_LOG").getD "info")

/-- Runs the program of the given name. -/
def run (program : String) (arguments : List String) : IO Exit := do
  let log ← log
  if program == "knock" then
    Sender.run { Sender.Network.isolated log with pause := fun time => IO.sleep time.toUInt32 }
      arguments
  else Daemon.run (.isolated files log) arguments

end PortKnock.Main

def main (arguments : List String) : IO UInt32 := do
  let program := (← IO.appPath).fileName.getD ""
  let exit ← PortKnock.Main.run program arguments
  IO.print exit.output
  IO.eprint exit.complaint
  return UInt32.ofNat exit.code
