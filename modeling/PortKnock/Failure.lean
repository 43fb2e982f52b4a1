import PortKnock.Text.Quoted

/-!
# Failures

Every error that ends an operation is reported as a failure: the field of work
it arose in and the wording of its cause.
-/

namespace PortKnock

/-- The field of work in which a failure arose. -/
inductive Failure.Kind
  | config
  | socket
  | capturing
  | loading
  | attaching
  | receiving
  deriving DecidableEq, Repr

structure Failure where
  kind : Failure.Kind
  message : String
  deriving DecidableEq, Repr

namespace Failure

def Kind.name : Kind → String
  | config => "Config"
  | socket => "Socket"
  | capturing => "Capturing"
  | loading => "Loading"
  | attaching => "Attaching"
  | receiving => "Receiving"

/-- For people. -/
def display (failure : Failure) : String :=
  failure.kind.name ++ ": " ++ failure.message

/-- For developers. -/
def debug (failure : Failure) : String :=
  "KnockErrWithMsg \x7b err: " ++ failure.kind.name ++ ", msg: " ++ Text.quoted failure.message
    ++ " \x7d"

end Failure

end PortKnock
