import PortKnock.Config.Basic

/-!
# Writing configurations

A configuration is written as a JSON object with one member per line, in the
order of the fields and indented by two spaces.
-/

namespace PortKnock.Config

/-! ## Strings -/

/-- A hexadecimal digit in lower case. -/
def hexDigit (value : Nat) : Char :=
  Nat.digitChar value

/-- A character as it stands in a JSON string. -/
def escapeChar (c : Char) : List Char :=
  match c with
  | '"' => ['\\', '"']
  | '\\' => ['\\', '\\']
  | '\x08' => ['\\', 'b']
  | '\x0c' => ['\\', 'f']
  | '\n' => ['\\', 'n']
  | '\r' => ['\\', 'r']
  | '\t' => ['\\', 't']
  | c =>
    if c.toNat < 0x20 then
      ['\\', 'u', '0', '0', hexDigit (c.toNat / 16), hexDigit (c.toNat % 16)]
    else [c]

def printText (text : String) : List Char :=
  '"' :: (text.toList.flatMap escapeChar ++ ['"'])

/-! ## Objects -/

def printBoolean : Bool → List Char
  | true => ['t', 'r', 'u', 'e']
  | false => ['f', 'a', 'l', 's', 'e']

def printCount (value : UInt64) : List Char :=
  Nat.toDigits 10 value.toNat

def printValue : Setting → List Char
  | .networkInterface value => printText value
  | .captureMode value => printText value.key
  | .bpfObjectPath (some value) => printText value
  | .bpfObjectPath none => ['n', 'u', 'l', 'l']
  | .genericMode value => printBoolean value
  | .strictEtherType value => printBoolean value
  | .ringByteSize value => printCount value
  | .captureThreads value => printCount value
  | .debug value => printBoolean value

/-- The line of a member, without what separates it from the next one. -/
def printMember (setting : Setting) : List Char :=
  [' ', ' '] ++ printText setting.field.key ++ [':', ' '] ++ printValue setting

/-- An object with the given members, one per line. -/
def printMembers (settings : List Setting) : List Char :=
  ['\x7b', '\n'] ++ [',', '\n'].intercalate (settings.map printMember) ++ ['\n', '\x7d']

/-- The text of a configuration. -/
def print (config : Config) : String :=
  String.ofList (printMembers (Field.all.map config.setting))

end PortKnock.Config
