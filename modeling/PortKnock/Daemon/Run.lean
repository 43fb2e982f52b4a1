import PortKnock.Config.Lookup
import PortKnock.Config.Printer
import PortKnock.Daemon.CommandLine
import PortKnock.Exit
import PortKnock.Interface
import PortKnock.KernelProgram
import PortKnock.Log.Filter

/-!
# Running the daemon

From the command line to the point where frames are captured.  What the machine
has to do is a parameter, `Daemon.Host`; everything that can fail before is
decided here.
-/

namespace PortKnock.Daemon

/-- What the daemon asks of the machine it runs on. -/
structure Host (m : Type → Type) where
  files : FileAccess m
  interfaces : m (List Interface)
  /-- Hands an object to the kernel, attaches it as planned and receives knocks to the end. -/
  attach : CapturePlan → ByteArray → m (Except Failure Unit)
  /-- Captures frames as planned into a ring and receives knocks from it to the end. -/
  capture : CapturePlan → Ring → m (Except Failure Unit)
  log : Log.Reporter m

/-- A machine that has files and nothing else. -/
def Host.isolated {m : Type → Type} [Monad m] (files : FileAccess m)
    (log : Log.Reporter m) : Host m where
  files
  interfaces := return []
  attach _ _ :=
    return .error ⟨.loading, "failed to load eBPF object: " ++ OsError.notPermitted.message⟩
  capture _ _ :=
    return .error ⟨.socket, "Error creating file description " ++ OsError.notPermitted.symbol⟩
  log

def say (text : String) : Log.Line := ⟨.info, .daemon, text⟩

/-- The failure as the cause of giving up what `context` says. -/
def within (context : String) (failure : Failure) : Defeat :=
  ⟨some context, failure.display⟩

/-- The failure alone. -/
def plainly (failure : Failure) : Defeat :=
  ⟨none, failure.display⟩

variable {m : Type → Type} [Monad m]

/-- Serves with the program that runs in the kernel. -/
def serveKernel (host : Host m) (plan : CapturePlan) : m (Except Failure Unit) := do
  match plan.bpfObjectPath with
  | none => return .error ⟨.loading, KernelProgram.LoadError.noObject.message⟩
  | some path =>
    host.log.line ⟨.info, .loader, "loading eBPF object from " ++ path⟩
    match ← KernelProgram.readObject host.files path with
    | .error error => return .error ⟨.loading, error.message⟩
    | .ok object => host.attach plan object

/-- Serves with packet sockets and a ring. -/
def servePackets (host : Host m) (plan : CapturePlan) (ring : Ring) : m (Except Failure Unit) := do
  host.log.line (say ("user space knock ring: " ++ toString ring.byteSize.toNat ++ " bytes"))
  if (← host.interfaces).any (·.name == plan.interface) then host.capture plan ring
  else return .error ⟨.socket, "Error finding interface index of " ++ plan.interface⟩

/-- Serves as planned on an interface that is settled. -/
def serveOn (host : Host m) (plan : CapturePlan) : m (Except Defeat Unit) := do
  host.log.line (say ("listening for knocks on " ++ plan.interface ++ " ("
    ++ plan.captureMode.label ++ " mode)"))
  match plan.captureMode with
  | .xdp =>
    return (← serveKernel host plan).mapError (within "failed to attach the knock program")
  | .socket =>
    match Ring.make plan.ringByteSize with
    | .error error => return .error (plainly ⟨.config, error.message⟩)
    | .ok ring =>
      return (← servePackets host plan ring).mapError (within "failed to start AF_PACKET capture")

/-- Loads the configuration, makes the plan and carries it out. -/
def serve (host : Host m) (options : ServeOptions) : m (Except Defeat Unit) := do
  match ← Config.load host.files host.log options.configPath with
  | .error error => return .error (within "failed to load config" error.failure)
  | .ok config =>
    let plan := config.plan options
    match Interface.resolveName? (← host.interfaces) plan.interface with
    | none => return .error (plainly ⟨.config, "this system has no network interfaces"⟩)
    | some interface => serveOn host { plan with interface }

/-- Runs the daemon with the given arguments. -/
def run (host : Host m) (arguments : List String) : m Exit := do
  match Command.ofArguments arguments with
  | .error stop => return .ofStop stop
  | .ok command => do
    host.log.start
    match command with
    | .defaultConfig => return .success (Config.print {} ++ "\n")
    | .serve options =>
      match ← serve host options with
      | .error defeat => return .ofDefeat defeat
      | .ok () => return .success ""

end PortKnock.Daemon
