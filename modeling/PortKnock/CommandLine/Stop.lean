import PortKnock.CommandLine.Grammar
import PortKnock.Text.Plain

/-!
# Why a command line is not carried out

It asks for a text about the program, or it does not fit the grammar.
-/

namespace PortKnock.CommandLine

/-- How a command line fails to fit the grammar. -/
inductive Fault
  | unknownArgument (text : String)
  | unknownCommand (name : String)
  | missingValue (shown : String)
  | badValue (value shown : String) (reason? : Option String)
  | repeated (shown : String)
  | surplusValue (value shown : String)
  | missingOperands
  /-- No command is given; the help is all that can be said. -/
  | missingCommand (help : String)
  deriving DecidableEq, Repr

namespace Fault

/-- The message, with what the user has typed as `clean` leaves it. -/
def message (clean : String → String) : Fault → String
  | unknownArgument text => "error: unexpected argument '" ++ clean text ++ "' found"
  | unknownCommand name => "error: unrecognized subcommand '" ++ clean name ++ "'"
  | missingValue shown =>
    "error: a value is required for '" ++ shown ++ "' but none was supplied"
  | badValue value shown none =>
    "error: invalid value '" ++ clean value ++ "' for '" ++ shown ++ "'"
  | badValue value shown (some reason) =>
    "error: invalid value '" ++ clean value ++ "' for '" ++ shown ++ "': " ++ reason
  | repeated shown => "error: the argument '" ++ shown ++ "' cannot be used multiple times"
  | surplusValue value shown =>
    "error: unexpected value '" ++ clean value ++ "' for '" ++ shown
      ++ "' found; no more were expected"
  | missingOperands => "error: the following required arguments were not provided:"
  | missingCommand help => help

/-- The first line of the message in plain text. -/
def headline (fault : Fault) : String :=
  let message := (fault.message Text.plain).toList
  let line := message.takeWhile (· != '\n')
  let ended := line.length < message.length
  String.ofList (if ended && line.getLast? == some '\r' then line.dropLast else line)

/-- The fault of giving a slot a value that its rule objects to. -/
def ofObjection (shown value : String) (objection : Objection) : Fault :=
  match objection with
  | .nothing => missingValue shown
  | objection => badValue value shown objection.reason?

end Fault

/-- What is done instead of carrying a command line out. -/
inductive Stop
  | help (text : String)
  | version (text : String)
  | fault (fault : Fault)
  deriving DecidableEq, Repr

/-- Zero if the user got what was asked for. -/
def Stop.exitCode : Stop → Nat
  | help _ => 0
  | version _ => 0
  | fault _ => 2

end PortKnock.CommandLine
