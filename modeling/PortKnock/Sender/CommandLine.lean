import PortKnock.CommandLine.Reading

/-!
# The command line of the sender

A host, ports to knock at, and how long to pause between two knocks.
-/

namespace PortKnock.Sender

open CommandLine

/-- What to knock at. -/
structure Order where
  host : String
  ports : List UInt16
  /-- The pause between two knocks in milliseconds. -/
  jitter : UInt64
  deriving DecidableEq, Repr

/-- What can be given on the command line. -/
inductive Item
  | host
  | ports
  | jitter
  deriving DecidableEq, Repr

def help : String := ofLines [
  "Sends a port knock sequence",
  "",
  "Usage: knock [OPTIONS] <HOST> <PORTS>...",
  "",
  "Arguments:",
  "  <HOST>      Host name or IPv4 address of the knockd host",
  "  <PORTS>...  Destination ports, knocked in the given order",
  "",
  "Options:",
  "      --jitter-ms <JITTER_MS>  Pause between two knocks in milliseconds [default: 200]",
  "  -h, --help                   Print help",
  "  -V, --version                Print version"]

/-- What a port is read as, and what it has to be. -/
def portRule : ValueRule := .integer (.signed 64) (.unsigned 16)

def jitterRule : ValueRule := .integer (.unsigned 64) ⟨1, 1500⟩

def defaultJitter : UInt64 := 200

def grammar : Grammar Item where
  parameters := [
    { name := "jitter-ms"
      effect := .value
        { id := .jitter, shown := "--jitter-ms <JITTER_MS>", rule := jitterRule } },
    { name := "help", letter? := some 'h', effect := .help },
    { name := "version", letter? := some 'V', effect := .version }]
  operands := [
    { id := .host, shown := "<HOST>", rule := .any },
    { id := .ports, shown := "<PORTS>...", rule := portRule, repeats := true }]
  summary := help
  manual := help
  version := "knockd 0.1.0\n"

/-- The number that an accepted value stands for. -/
def number (value : String) : Nat :=
  match Decimal.readInteger (.signed 64) value.toList with
  | .ok number => number.toNat
  | .error _ => 0

/-- The order that is given. -/
def order (given : Given Item) : Order where
  host := (given.value? .host).getD ""
  ports := (given.values .ports).map fun value => UInt16.ofNat (number value)
  jitter := ((given.value? .jitter).map fun value => UInt64.ofNat (number value)).getD defaultJitter

/-- The order that a command line gives. -/
def Order.ofArguments (arguments : List String) : Except Stop Order := do
  match ← grammar.read arguments with
  | .complete given => return order given
  | .command name _ => throw (.fault (.unknownCommand name))

end PortKnock.Sender
