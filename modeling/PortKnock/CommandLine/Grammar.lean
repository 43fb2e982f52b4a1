import PortKnock.Decimal.Integer

/-!
# Grammars of command lines

What a program accepts on its command line.  Options have names of several
letters behind two dashes or a single letter behind one; operands are told
apart by their order; a command hands the rest of the line to a grammar of its
own.  A slot, of an option or an operand, says which values it takes.
-/

namespace PortKnock.CommandLine

/-! ## Values -/

/-- Which values are accepted. -/
inductive ValueRule
  | any
  | nonEmpty
  | choice (choices : List String)
  /-- Integers that fit into a word and lie in a range. -/
  | integer (word range : Decimal.Range)
  deriving DecidableEq, Repr

/-- What is wrong with a value. -/
inductive Objection
  | nothing
  | notAChoice
  | noInteger (cause : Decimal.IntegerError)
  | outOfRange (value : Int) (range : Decimal.Range)
  deriving DecidableEq, Repr

/-- The reason that is given for refusing an integer. -/
def Objection.reason? : Objection → Option String
  | nothing => none
  | notAChoice => none
  | noInteger cause => some cause.message
  | outOfRange value range => some (toString value ++ " is not in " ++ range.text)

/-- The first thing that is wrong with a value. -/
def ValueRule.objection? (rule : ValueRule) (value : String) : Option Objection :=
  match rule with
  | any => none
  | nonEmpty => if value.isEmpty then some .nothing else none
  | choice choices =>
    if value.isEmpty then some .nothing
    else if choices.contains value then none
    else some .notAChoice
  | integer word range =>
    match Decimal.readInteger word value.toList with
    | .error cause => some (.noInteger cause)
    | .ok number => if range.contains number then none else some (.outOfRange number range)

/-! ## Parts of a command line -/

/-- A place for values; `ι` are the names that a program has for such places. -/
structure Slot (ι : Type) where
  id : ι
  /-- As messages show it. -/
  shown : String
  rule : ValueRule
  /-- Whether it takes any number of values. -/
  repeats : Bool := false

/-- What an option does. -/
inductive Effect (ι : Type)
  /-- It is given or not. -/
  | switch (id : ι)
  /-- It takes a value. -/
  | value (slot : Slot ι)
  | help
  | version

structure Parameter (ι : Type) where
  /-- The name, and other names for the same. -/
  name : String
  aliases : List String := []
  letter? : Option Char := none
  effect : Effect ι

/-- As messages show it. -/
def Parameter.shown {ι : Type} (parameter : Parameter ι) : String :=
  match parameter.effect with
  | .value slot => slot.shown
  | _ => "--" ++ parameter.name

/-- A text of lines that all end. -/
def ofLines (lines : List String) : String :=
  lines.foldl (fun text line => text ++ line ++ "\n") ""

structure Grammar (ι : Type) where
  parameters : List (Parameter ι)
  /-- In their order; each has to be given. -/
  operands : List (Slot ι) := []
  /-- If there are any, one has to be given. -/
  commands : List String := []
  /-- The short help. -/
  summary : String
  /-- The long help. -/
  manual : String
  version : String := ""

namespace Grammar

variable {ι : Type}

def named? (grammar : Grammar ι) (name : String) : Option (Parameter ι) :=
  grammar.parameters.find? fun parameter =>
    parameter.name == name || parameter.aliases.contains name

def lettered? (grammar : Grammar ι) (letter : Char) : Option (Parameter ι) :=
  grammar.parameters.find? fun parameter => parameter.letter? == some letter

end Grammar

end PortKnock.CommandLine
