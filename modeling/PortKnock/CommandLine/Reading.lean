import PortKnock.CommandLine.Stop

/-!
# Reading command lines

Arguments are taken from left to right, and the first problem ends the reading.
The values of a slot are collected while they come and are looked at when they
are settled: as soon as something else is begun, or at the end.

What starts with a dash is an option and never the value of the option before
it, unless it is a lone dash or stands behind two dashes that stand alone.
-/

namespace PortKnock.CommandLine

/-! ## Arguments -/

/-- The forms that an argument can have. -/
inductive Argument
  /-- Two dashes alone: only operands follow. -/
  | separator
  /-- A name behind two dashes, perhaps with a value behind an equals sign. -/
  | named (name : String) (value? : Option String)
  /-- Letters behind a dash. -/
  | letters (letters : List Char)
  | plain (text : String)
  deriving DecidableEq, Repr

def Argument.ofText (text : String) : Argument :=
  match text.toList with
  | ['-', '-'] => separator
  | '-' :: '-' :: rest =>
    let name := String.ofList (rest.takeWhile (· != '='))
    match rest.dropWhile (· != '=') with
    | [] => named name none
    | _ :: value => named name (some (String.ofList value))
  | '-' :: letter :: rest => letters (letter :: rest)
  | _ => plain text

/-! ## What is given -/

/-- Settled slots and switches with their values, in the order of settling. -/
abbrev Given (ι : Type) := List (ι × List String)

namespace Given

variable {ι : Type} [DecidableEq ι]

def has (given : Given ι) (id : ι) : Bool :=
  given.any fun entry => entry.1 == id

/-- All values of a slot. -/
def values (given : Given ι) (id : ι) : List String :=
  (given.filter fun entry => entry.1 == id).flatMap (·.2)

def value? (given : Given ι) (id : ι) : Option String :=
  (given.values id).head?

end Given

/-- A slot whose values are being collected. -/
structure Pending (ι : Type) where
  slot : Slot ι
  values : List String
  /-- Whether the next plain argument is for it in any case. -/
  awaiting : Bool

/-- How far the reading has come. -/
structure Progress (ι : Type) where
  given : Given ι := []
  pending? : Option (Pending ι) := none
  /-- The operands to come, starting with the one whose turn it is. -/
  operands : List (Slot ι)

namespace Progress

variable {ι : Type} [DecidableEq ι]

def awaits (progress : Progress ι) : Bool :=
  progress.pending?.any (·.awaiting)

/-- Enters the values of a slot, which has to have some, to be new unless it repeats, and to
take each of them. -/
def settle (progress : Progress ι) (slot : Slot ι) (values : List String) :
    Except Stop (Progress ι) :=
  if values.isEmpty then .error (.fault (.missingValue slot.shown))
  else if !slot.repeats && progress.given.has slot.id then
    .error (.fault (.repeated slot.shown))
  else
    match values.findSome? fun value => (slot.rule.objection? value).map (value, ·) with
    | some (value, objection) => .error (.fault (.ofObjection slot.shown value objection))
    | none => .ok { progress with given := progress.given ++ [(slot.id, values)] }

/-- Settles the slot whose values were being collected. -/
def resolve (progress : Progress ι) : Except Stop (Progress ι) :=
  match progress.pending? with
  | none => .ok progress
  | some pending => settle { progress with pending? := none } pending.slot pending.values

/-- Begins to collect values for a slot. -/
def collect (progress : Progress ι) (pending : Pending ι) : Except Stop (Progress ι) :=
  progress.resolve.map fun progress => { progress with pending? := some pending }

/-- An option without a value behind it. -/
def apply (grammar : Grammar ι) (long : Bool) (parameter : Parameter ι)
    (progress : Progress ι) : Except Stop (Progress ι) :=
  match parameter.effect with
  | .value slot => progress.collect ⟨slot, [], true⟩
  | .switch id => do
    let progress ← progress.resolve
    if progress.given.has id then throw (.fault (.repeated parameter.shown))
    return { progress with given := progress.given ++ [(id, [])] }
  | .help => do
    let _ ← progress.resolve
    throw (.help (if long then grammar.manual else grammar.summary))
  | .version => do
    let _ ← progress.resolve
    throw (.version grammar.version)

/-- An option with a value attached to it. -/
def attach (parameter : Parameter ι) (value : String) (progress : Progress ι) :
    Except Stop (Progress ι) :=
  match parameter.effect with
  | .value slot => do (← progress.resolve).settle slot [value]
  | _ => .error (.fault (.surplusValue value parameter.shown))

/-- Letters behind a dash: options one after the other, up to one that takes a value, which the
remaining letters are, less an equals sign before it. -/
def takeLetters (grammar : Grammar ι) (progress : Progress ι) :
    List Char → Except Stop (Progress ι)
  | [] => .ok progress
  | letter :: rest =>
    match grammar.lettered? letter with
    | none => .error (.fault (.unknownArgument (String.ofList ['-', letter])))
    | some parameter =>
      match parameter.effect, rest with
      | .value _, '=' :: value => progress.attach parameter (String.ofList value)
      | .value _, first :: value => progress.attach parameter (String.ofList (first :: value))
      | _, rest => do
        let progress ← progress.apply grammar false parameter
        takeLetters grammar progress rest

/-- A name behind two dashes. -/
def takeNamed (grammar : Grammar ι) (progress : Progress ι) (name : String)
    (value? : Option String) : Except Stop (Progress ι) :=
  match grammar.named? name, value? with
  | none, _ => .error (.fault (.unknownArgument ("--" ++ name)))
  | some parameter, some value => progress.attach parameter value
  | some parameter, none => progress.apply grammar true parameter

/-- An argument that no operand is left for.  Where a command could stand it is taken for one,
except for the name of a command behind the separator. -/
def surplus (grammar : Grammar ι) (separated : Bool) (text : String) : Fault :=
  if grammar.commands.isEmpty || separated && grammar.commands.contains text then
    .unknownArgument text
  else .unknownCommand text

/-- A value for the operand whose turn it is. -/
def takeOperand (grammar : Grammar ι) (separated : Bool) (progress : Progress ι)
    (text : String) : Except Stop (Progress ι) :=
  match progress.operands with
  | [] => .error (.fault (surplus grammar separated text))
  | slot :: others =>
    match progress.pending? with
    | some pending =>
      if slot.repeats && pending.slot.id == slot.id then
        .ok { progress with
          pending? := some { pending with values := pending.values ++ [text] } }
      else
        { progress with operands := if slot.repeats then slot :: others else others }.collect
          ⟨slot, [text], false⟩
    | none =>
      { progress with operands := if slot.repeats then slot :: others else others }.collect
        ⟨slot, [text], false⟩

/-- A plain argument: the value of an option that awaits one, or an operand. -/
def takePlain (grammar : Grammar ι) (progress : Progress ι) (text : String) :
    Except Stop (Progress ι) :=
  match progress.pending? with
  | some pending =>
    if pending.awaiting then
      .ok { progress with
        pending? := some { pending with values := pending.values ++ [text], awaiting := false } }
    else progress.takeOperand grammar false text
  | none => progress.takeOperand grammar false text

end Progress

/-! ## Whole command lines -/

/-- What a command line says. -/
inductive Reading (ι : Type)
  /-- A command and the arguments for it. -/
  | command (name : String) (arguments : List String)
  | complete (given : Given ι)

namespace Grammar

variable {ι : Type} [DecidableEq ι]

/-- Ends a reading: a command must not be missing, and no operand either. -/
def finish (grammar : Grammar ι) (progress : Progress ι) : Except Stop (Reading ι) := do
  let progress ← progress.resolve
  if !grammar.commands.isEmpty then throw (.fault (.missingCommand grammar.summary))
  if grammar.operands.any fun slot => !progress.given.has slot.id then
    throw (.fault .missingOperands)
  return .complete progress.given

/-- Goes on with the given arguments. -/
def readFrom (grammar : Grammar ι) (progress : Progress ι) :
    List String → Except Stop (Reading ι)
  | [] => grammar.finish progress
  | argument :: rest =>
    if grammar.commands.contains argument && !progress.awaits then
      .ok (.command argument rest)
    else
      match Argument.ofText argument with
      | .separator => do
        grammar.finish (← rest.foldlM (·.takeOperand grammar true) progress)
      | .named name value? => do
        grammar.readFrom (← progress.takeNamed grammar name value?) rest
      | .letters letters => do
        grammar.readFrom (← progress.takeLetters grammar letters) rest
      | .plain text => do
        grammar.readFrom (← progress.takePlain grammar text) rest

/-- Reads a command line. -/
def read (grammar : Grammar ι) (arguments : List String) : Except Stop (Reading ι) :=
  grammar.readFrom { operands := grammar.operands } arguments

end Grammar

end PortKnock.CommandLine
