import PortKnock.Log
import PortKnock.Pattern.Reader

/-!
# Filters of log lines

A filter text lists directives, which say up to which level the lines of an
origin are shown, and may give a pattern that a line has to contain.  Parts of
the text that cannot be read are left out, with a warning for each.
-/

namespace PortKnock.Log

/-! ## Filters -/

/-- Shows lines up to `verbosity` whose origin starts with the path, or those of every origin. -/
structure Directive where
  path? : Option String
  verbosity : Nat
  deriving DecidableEq, Repr

/-- Directives; of those that fit an origin the one with the longest path counts. -/
structure Filter where
  directives : List Directive
  /-- What the text of a line has to contain. -/
  pattern? : Option Pattern := none
  deriving DecidableEq, Repr

namespace Directive

def fits (directive : Directive) (origin : Origin) : Bool :=
  directive.path?.all (·.isPrefixOf origin.path)

/-- The length of the path, none being as short as an empty one. -/
def length (directive : Directive) : Nat :=
  (directive.path?.getD "").length

/-- Puts a directive in the place of one with the same path, or behind all others. -/
def insert (directives : List Directive) (directive : Directive) : List Directive :=
  if directives.any (·.path? == directive.path?) then
    directives.map fun other => if other.path? == directive.path? then directive else other
  else directives ++ [directive]

end Directive

namespace Filter

/-- The directive that counts for an origin: the longest path that fits it, the later one of two
of the same length. -/
def directiveFor? (filter : Filter) (origin : Origin) : Option Directive :=
  (filter.directives.filter (·.fits origin)).foldl
    (fun best directive =>
      match best with
      | some known => if known.length > directive.length then best else some directive
      | none => some directive)
    none

def shows (filter : Filter) (line : Line) : Bool :=
  (filter.directiveFor? line.origin).any (line.level.verbosity ≤ ·.verbosity)
    && filter.pattern?.all (·.occursIn line.text)

/-! ## Reading -/

/-- The number of levels that a level name lets through, in any case; `off` lets none through. -/
def verbosity? (name : String) : Option Nat :=
  match name.toLower with
  | "off" => some 0
  | "error" => some 1
  | "warn" => some 2
  | "info" => some 3
  | "debug" => some 4
  | "trace" => some 5
  | _ => none

/-- Why a part of a filter text is left out. -/
inductive Flaw
  | tooManySlashes (text : String)
  | malformed (part : String)
  | badPattern (refusal : Pattern.Refusal)
  deriving DecidableEq, Repr

def Flaw.message : Flaw → String
  | tooManySlashes text => "invalid logging spec '" ++ text ++ "' (too many '/'s)"
  | malformed part => "invalid logging spec '" ++ part ++ "'"
  | badPattern refusal => "invalid regex filter - " ++ refusal.message

def Flaw.warning (flaw : Flaw) : String :=
  "warning: " ++ flaw.message ++ ", ignoring it\n"

/-- One part of a filter text: a level, a path, or a path and its level. -/
def readDirective (part : String) : Except Flaw Directive :=
  match part.splitOn "=" with
  | [one] =>
    match verbosity? one with
    | some verbosity => .ok ⟨none, verbosity⟩
    | none => .ok ⟨some one, Level.trace.verbosity⟩
  | [path, level] =>
    let level := Text.trim level
    if level.isEmpty then .ok ⟨some path, Level.trace.verbosity⟩
    else
      match verbosity? level with
      | some verbosity => .ok ⟨some path, verbosity⟩
      | none => .error (.malformed level)
  | _ => .error (.malformed part)

/-- The directives of a comma separated list, and what is wrong with the other parts. -/
def readDirectives (text : String) : List Directive × List Flaw :=
  let parts := ((text.splitOn ",").map Text.trim).filter (!·.isEmpty)
  parts.foldl
    (fun (directives, flaws) part =>
      match readDirective part with
      | .ok directive => (Directive.insert directives directive, flaws)
      | .error flaw => (directives, flaws ++ [flaw]))
    ([], [])

/-- Without any directive only errors are shown. -/
def ofDirectives (directives : List Directive) (pattern? : Option Pattern) : Filter where
  directives := if directives.isEmpty then [⟨none, Level.error.verbosity⟩] else directives
  pattern?

/-- Reads a filter text: directives and, behind a slash, a pattern. -/
def ofText (text : String) : Filter × List Flaw :=
  match text.splitOn "/" with
  | [list] =>
    let (directives, flaws) := readDirectives list
    (ofDirectives directives none, flaws)
  | [list, pattern] =>
    let (directives, flaws) := readDirectives list
    match Pattern.ofText pattern with
    | .ok pattern => (ofDirectives directives (some pattern), flaws)
    | .error refusal => (ofDirectives directives none, flaws ++ [.badPattern refusal])
  | _ => (ofDirectives [] none, [.tooManySlashes text])

end Filter

/-! ## Reporting -/

/-- Writes what a filter text lets through, behind the warnings about that text. -/
def Reporter.ofFilterText {m : Type → Type} [Monad m] (write : String → m Unit)
    (text : String) : Reporter m :=
  let (filter, flaws) := Filter.ofText text
  { start := flaws.forM (write ·.warning)
    line := fun line => if filter.shows line then write line.record else return () }

end PortKnock.Log
