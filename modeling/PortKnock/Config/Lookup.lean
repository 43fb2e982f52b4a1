import PortKnock.Config.Reader
import PortKnock.FileTree
import PortKnock.Log

/-!
# Finding the configuration

A file that is named has to be there and to be right.  Otherwise the first file
at one of the common locations counts, and it has to be right as well: what is
wrong with a file is never hidden by falling back to another one.  The defaults
are used only if there is no file at all, and not without a warning.
-/

namespace PortKnock.Config

/-- Where configuration files are looked for, in this order. -/
def commonLocations : List String :=
  ["knockd.json", "/etc/knockd/knockd.json", "/usr/local/etc/knockd/knockd.json"]

/-- Why there is no configuration. -/
inductive LoadError
  | unreadable (path : String) (cause : FileTree.ReadError)
  | rejected (cause : ParseError)

def LoadError.message : LoadError → String
  | unreadable path cause => "failed to read config file '" ++ path ++ "': " ++ cause.message
  | rejected cause => cause.message

def LoadError.failure (error : LoadError) : Failure :=
  ⟨.config, error.message⟩

/-- What is logged once the configuration of a file is loaded. -/
def loadedLine (path : String) : Log.Line :=
  ⟨.info, .configuration, "loaded configuration from " ++ path⟩

/-- What is logged if the defaults have to do. -/
def defaultsLine : Log.Line :=
  ⟨.warn, .configuration, "no configuration file found, using defaults. " ++
    "Generate one with: knockd default-config > knockd.json"⟩

/-- The first of the paths that leads to a file. -/
def firstFile? {m : Type → Type} [Monad m] (files : FileAccess m) :
    List String → m (Option String)
  | [] => return none
  | path :: paths => do
    if ← files.isFile path then return some path else firstFile? files paths

/-- Loads the configuration of a file. -/
def loadFile {m : Type → Type} [Monad m] (files : FileAccess m) (log : Log.Reporter m)
    (path : String) : m (Except LoadError Config) := do
  match ← files.readText path with
  | .error cause => return .error (.unreadable path cause)
  | .ok text =>
    match parse text with
    | .error cause => return .error (.rejected cause)
    | .ok config =>
      log.line (loadedLine path)
      return .ok config

/-- Loads the configuration of the named file, or of the first one at a common location. -/
def load {m : Type → Type} [Monad m] (files : FileAccess m) (log : Log.Reporter m)
    (path? : Option String) : m (Except LoadError Config) := do
  match path? with
  | some path => loadFile files log path
  | none =>
    match ← firstFile? files commonLocations with
    | some path => loadFile files log path
    | none =>
      log.line defaultsLine
      return .ok {}

end PortKnock.Config
