import PortKnock.CapturePlan
import PortKnock.FileTree
import PortKnock.ObjectFile

/-!
# The kernel program

The program that picks knocks out of the frames of an interface inside the
kernel: the names of its parts, what it is told by the daemon, and the object
file that it is loaded from.
-/

namespace PortKnock.KernelProgram

/-! ## Names -/

def entryPoint : String := "knock_xdp"

/-- The ring buffer that knocks are published into. -/
def eventsMap : String := "KNOCK_EVENTS"

/-- The array that the daemon writes the filter into. -/
def filterMap : String := "KNOCK_FILTER"

/-! ## The filter -/

/-- An entry of the filter array. -/
inductive Slot
  | strictEtherType
  | debug
  deriving DecidableEq, Repr

namespace Slot

/-- All entries in the order of their indices. -/
def all : List Slot := [strictEtherType, debug]

def index : Slot → UInt32
  | strictEtherType => 0
  | debug => 1

/-- What a plan puts into an entry: one for yes and zero for no. -/
def value (plan : CapturePlan) : Slot → UInt32
  | strictEtherType => if plan.filter.strictEtherType then 1 else 0
  | debug => if plan.debug then 1 else 0

end Slot

/-- The entries of the filter array for a plan. -/
def filterSlots (plan : CapturePlan) : List (UInt32 × UInt32) :=
  Slot.all.map fun slot => (slot.index, slot.value plan)

/-! ## The object file -/

/-- Why there is no kernel program. -/
inductive LoadError
  /-- No file is named, and no program is built in. -/
  | noObject
  | unreadable (path : String)
  | notAnObject
  deriving DecidableEq, Repr

def LoadError.message : LoadError → String
  | noObject =>
    "built without an embedded eBPF object, set BpfObjectPath or use --mode socket"
  | unreadable path => "failed to load eBPF object: error loading " ++ path
  | notAnObject => "failed to load eBPF object: error parsing BPF object: error parsing ELF data"

/-- Reads the object file at a path. -/
def readObject {m : Type → Type} [Monad m] (files : FileAccess m) (path : String) :
    m (Except LoadError ByteArray) := do
  match ← files.read path with
  | .error _ => return .error (.unreadable path)
  | .ok file => return if ObjectFile.isReadable file then .ok file else .error .notAnObject

end PortKnock.KernelProgram
