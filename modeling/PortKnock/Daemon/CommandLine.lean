import PortKnock.CapturePlan
import PortKnock.CommandLine.Reading

/-!
# The command line of the daemon

Two commands, one of them with options, and a third one for help.
-/

namespace PortKnock.Daemon

open CommandLine

/-- What the daemon can be told to do. -/
inductive Command
  /-- Print the default configuration. -/
  | defaultConfig
  /-- Print every knock. -/
  | serve (options : ServeOptions)
  deriving DecidableEq, Repr

/-- What can be given on the command line. -/
inductive Item
  | config
  | interface
  | mode
  | genericMode
  deriving DecidableEq, Repr

/-! ## Texts -/

def help : String := ofLines [
  "Port knock listener",
  "",
  "Usage: knockd <COMMAND>",
  "",
  "Commands:",
  "  serve           Attach to an interface and print every knock as `ip,port`",
  "  default-config  Print the default configuration as JSON",
  "  help            Print this message or the help of the given subcommand(s)",
  "",
  "Options:",
  "  -h, --help     Print help",
  "  -V, --version  Print version"]

def serveSummary : String := ofLines [
  "Attach to an interface and print every knock as `ip,port`",
  "",
  "Usage: knockd serve [OPTIONS]",
  "",
  "Options:",
  "  -c, --config <CONFIG>        Path to the JSON configuration file",
  "      --interface <INTERFACE>  " ++
    "Interface to listen on (e.g., eno1), overrides NetworkInterface",
  "      --mode <MODE>            " ++
    "Capture mode, overrides CaptureMode [possible values: xdp, socket]",
  "      --generic-mode           Force generic (SKB) XDP mode",
  "  -h, --help                   Print help (see more with '--help')"]

def serveManual : String := ofLines [
  "Attach to an interface and print every knock as `ip,port`",
  "",
  "Usage: knockd serve [OPTIONS]",
  "",
  "Options:",
  "  -c, --config <CONFIG>",
  "          Path to the JSON configuration file",
  "",
  "      --interface <INTERFACE>",
  "          Interface to listen on (e.g., eno1), overrides NetworkInterface",
  "",
  "      --mode <MODE>",
  "          Capture mode, overrides CaptureMode",
  "",
  "          Possible values:",
  "          - xdp:    kernel XDP program, knocks arrive through the BPF ring buffer",
  "          - socket: AF_PACKET socket, frames are classified in user space",
  "",
  "      --generic-mode",
  "          Force generic (SKB) XDP mode",
  "",
  "  -h, --help",
  "          Print help (see a summary with '-h')"]

def defaultConfigHelp : String := ofLines [
  "Print the default configuration as JSON",
  "",
  "Usage: knockd default-config",
  "",
  "Options:",
  "  -h, --help  Print help"]

def helpHelp : String := ofLines [
  "Print this message or the help of the given subcommand(s)",
  "",
  "Usage: knockd help [COMMAND]...",
  "",
  "Arguments:",
  "  [COMMAND]...  Print help for the subcommand(s)"]

/-! ## Grammars -/

def helpParameter : Parameter Item := { name := "help", letter? := some 'h', effect := .help }

def grammar : Grammar Item where
  parameters := [
    helpParameter,
    { name := "version", letter? := some 'V', effect := .version }]
  commands := ["serve", "default-config", "help"]
  summary := help
  manual := help
  version := "knockd 0.1.0\n"

def serveGrammar : Grammar Item where
  parameters := [
    { name := "config"
      letter? := some 'c'
      effect := .value { id := .config, shown := "--config <CONFIG>", rule := .nonEmpty } },
    { name := "interface"
      aliases := ["iface"]
      effect := .value { id := .interface, shown := "--interface <INTERFACE>", rule := .any } },
    { name := "mode"
      effect := .value
        { id := .mode, shown := "--mode <MODE>", rule := .choice ["xdp", "socket"] } },
    { name := "generic-mode", effect := .switch .genericMode },
    helpParameter]
  summary := serveSummary
  manual := serveManual

def defaultConfigGrammar : Grammar Item where
  parameters := [helpParameter]
  summary := defaultConfigHelp
  manual := defaultConfigHelp

/-! ## Commands -/

/-- The options that are given. -/
def options (given : Given Item) : ServeOptions where
  configPath := given.value? .config
  interface := given.value? .interface
  captureMode := (given.value? .mode).bind CaptureMode.ofKey?
  genericMode := given.has .genericMode

/-- The help that names ask for.  Only the first one can name a command. -/
def helpFor : (names : List String) → Stop
  | [] => .help help
  | ["serve"] => .help serveManual
  | ["default-config"] => .help defaultConfigHelp
  | ["help"] => .help helpHelp
  | name :: names =>
    if grammar.commands.contains name then .fault (.unknownCommand (names.headD name))
    else .fault (.unknownCommand name)

/-- The command that a command line gives. -/
def Command.ofArguments (arguments : List String) : Except Stop Command := do
  match ← grammar.read arguments with
  | .command "serve" rest =>
    match ← serveGrammar.read rest with
    | .complete given => return .serve (options given)
    | .command name _ => throw (.fault (.unknownCommand name))
  | .command "default-config" rest =>
    match ← defaultConfigGrammar.read rest with
    | .complete _ => return .defaultConfig
    | .command name _ => throw (.fault (.unknownCommand name))
  | .command "help" names => throw (helpFor names)
  | .command name _ => throw (.fault (.unknownCommand name))
  | .complete _ => throw (.fault (.missingCommand grammar.summary))

end PortKnock.Daemon
