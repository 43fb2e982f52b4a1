import PortKnock.Ring.Basic
import PortKnock.Failure

/-!
# Configuration

What a configuration file can set, the values that stand in for what it leaves
out, and the conditions that every configuration has to meet.
-/

namespace PortKnock

/-- How frames reach the daemon. -/
inductive CaptureMode
  /-- A kernel program picks knocks out and passes them through the kernel's ring buffer. -/
  | xdp
  /-- Packet sockets hand all frames over, and the daemon picks the knocks out. -/
  | socket
  deriving DecidableEq, Repr

namespace CaptureMode

/-- As configuration files and command lines name it. -/
def key : CaptureMode → String
  | xdp => "xdp"
  | socket => "socket"

def ofKey? : String → Option CaptureMode
  | "xdp" => some xdp
  | "socket" => some socket
  | _ => none

/-- As messages name it. -/
def label : CaptureMode → String
  | xdp => "Xdp"
  | socket => "Socket"

end CaptureMode

/-- The defaults are what holds without any configuration file. -/
structure Config where
  /-- The interface to listen on; empty for the default interface of the host. -/
  networkInterface : String := ""
  captureMode : CaptureMode := .xdp
  /-- The file of the kernel program, if not the built-in one. -/
  bpfObjectPath : Option String := none
  genericMode : Bool := false
  strictEtherType : Bool := false
  ringByteSize : UInt64 := 16777216
  captureThreads : UInt64 := 1
  debug : Bool := false
  deriving DecidableEq, Repr

namespace Config

/-! ## Settings -/

/-- What can be set. -/
inductive Field
  | networkInterface
  | captureMode
  | bpfObjectPath
  | genericMode
  | strictEtherType
  | ringByteSize
  | captureThreads
  | debug
  deriving DecidableEq, Repr

namespace Field

/-- All fields, in the order in which they are written. -/
def all : List Field :=
  [networkInterface, captureMode, bpfObjectPath, genericMode, strictEtherType, ringByteSize,
    captureThreads, debug]

/-- The name of a field in a configuration file. -/
def key : Field → String
  | networkInterface => "NetworkInterface"
  | captureMode => "CaptureMode"
  | bpfObjectPath => "BpfObjectPath"
  | genericMode => "GenericMode"
  | strictEtherType => "StrictEtherType"
  | ringByteSize => "RingByteSize"
  | captureThreads => "CaptureThreads"
  | debug => "Debug"

def ofKey? (key : String) : Option Field :=
  all.find? fun field => field.key == key

end Field

/-- A field together with a value for it. -/
inductive Setting
  | networkInterface (value : String)
  | captureMode (value : CaptureMode)
  | bpfObjectPath (value : Option String)
  | genericMode (value : Bool)
  | strictEtherType (value : Bool)
  | ringByteSize (value : UInt64)
  | captureThreads (value : UInt64)
  | debug (value : Bool)
  deriving DecidableEq, Repr

def Setting.field : Setting → Field
  | networkInterface _ => .networkInterface
  | captureMode _ => .captureMode
  | bpfObjectPath _ => .bpfObjectPath
  | genericMode _ => .genericMode
  | strictEtherType _ => .strictEtherType
  | ringByteSize _ => .ringByteSize
  | captureThreads _ => .captureThreads
  | debug _ => .debug

/-- The configuration with one field replaced. -/
def set (config : Config) : Setting → Config
  | .networkInterface value => { config with networkInterface := value }
  | .captureMode value => { config with captureMode := value }
  | .bpfObjectPath value => { config with bpfObjectPath := value }
  | .genericMode value => { config with genericMode := value }
  | .strictEtherType value => { config with strictEtherType := value }
  | .ringByteSize value => { config with ringByteSize := value }
  | .captureThreads value => { config with captureThreads := value }
  | .debug value => { config with debug := value }

/-- The value that a configuration has for a field. -/
def setting (config : Config) : Field → Setting
  | .networkInterface => .networkInterface config.networkInterface
  | .captureMode => .captureMode config.captureMode
  | .bpfObjectPath => .bpfObjectPath config.bpfObjectPath
  | .genericMode => .genericMode config.genericMode
  | .strictEtherType => .strictEtherType config.strictEtherType
  | .ringByteSize => .ringByteSize config.ringByteSize
  | .captureThreads => .captureThreads config.captureThreads
  | .debug => .debug config.debug

/-- The default configuration with settings put in, one after the other. -/
def ofSettings (settings : List Setting) : Config :=
  settings.foldl set {}

/-! ## Validity -/

/-- A value that no configuration may have. -/
inductive Invalid
  | ringByteSize (value : UInt64)
  | captureThreads
  deriving DecidableEq, Repr

def Invalid.message : Invalid → String
  | ringByteSize value =>
    "RingByteSize must be a power of two and at least 16, got " ++ toString value.toNat
  | captureThreads => "CaptureThreads must be at least 1"

/-- Refuses sizes of which no ring can be made, and capturing without any thread. -/
def validate (config : Config) : Except Invalid Unit :=
  if !isPowerOfTwo config.ringByteSize || config.ringByteSize < 16 then
    .error (.ringByteSize config.ringByteSize)
  else if config.captureThreads < 1 then
    .error .captureThreads
  else .ok ()

end Config

end PortKnock
