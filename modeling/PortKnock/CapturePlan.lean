import PortKnock.Config.Basic
import PortKnock.Frame

/-!
# Capture plans

What the daemon is going to do: the configuration, with what the command line
says put over it.
-/

namespace PortKnock

/-- What the command line says about serving. -/
structure ServeOptions where
  /-- The configuration file, if one is named. -/
  configPath : Option String := none
  interface : Option String := none
  captureMode : Option CaptureMode := none
  genericMode : Bool := false
  deriving DecidableEq, Repr

structure CapturePlan where
  /-- Empty for the default interface of the host. -/
  interface : String
  captureMode : CaptureMode
  bpfObjectPath : Option String
  genericMode : Bool
  filter : Filter
  ringByteSize : UInt64
  captureThreads : UInt64
  debug : Bool
  deriving DecidableEq, Repr

/-- The command line goes before the configuration.  Generic mode is used if either asks for it. -/
def Config.plan (config : Config) (options : ServeOptions) : CapturePlan where
  interface := options.interface.getD config.networkInterface
  captureMode := options.captureMode.getD config.captureMode
  bpfObjectPath := config.bpfObjectPath
  genericMode := options.genericMode || config.genericMode
  filter := { strictEtherType := config.strictEtherType }
  ringByteSize := config.ringByteSize
  captureThreads := config.captureThreads
  debug := config.debug

end PortKnock
