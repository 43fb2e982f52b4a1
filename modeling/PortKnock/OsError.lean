/-!
# Errors of the operating system

What the operating system answers instead of doing what it was asked: a number,
the symbol of that number and its wording.
-/

namespace PortKnock

structure OsError where
  code : Nat
  symbol : String
  text : String
  deriving DecidableEq, Repr

namespace OsError

/-- The wording with the number behind it. -/
def message (error : OsError) : String :=
  s!"{error.text} (os error {error.code})"

def notPermitted : OsError := ⟨1, "EPERM", "Operation not permitted"⟩

def noSuchFile : OsError := ⟨2, "ENOENT", "No such file or directory"⟩

def interrupted : OsError := ⟨4, "EINTR", "Interrupted system call"⟩

def badDescriptor : OsError := ⟨9, "EBADF", "Bad file descriptor"⟩

def tryAgain : OsError := ⟨11, "EAGAIN", "Resource temporarily unavailable"⟩

def notADirectory : OsError := ⟨20, "ENOTDIR", "Not a directory"⟩

def isADirectory : OsError := ⟨21, "EISDIR", "Is a directory"⟩

def invalidArgument : OsError := ⟨22, "EINVAL", "Invalid argument"⟩

def nameTooLong : OsError := ⟨36, "ENAMETOOLONG", "File name too long"⟩

def notASocket : OsError := ⟨88, "ENOTSOCK", "Socket operation on non-socket"⟩

def networkUnreachable : OsError := ⟨101, "ENETUNREACH", "Network is unreachable"⟩

end OsError

end PortKnock
