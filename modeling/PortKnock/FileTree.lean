import PortKnock.OsError

/-!
# Files

A tree of directories and files and what a path leads to in it.  A path is
followed name by name; it can only go on from a directory, and two dots lead
back to where a directory was entered from.

`FileAccess` is what the programs know of files.  `FileTree.access` gives it
for a tree, so all that depends on files can be reasoned about.
-/

namespace PortKnock

/-! ## Trees -/

/-- What a name in a directory can stand for. -/
inductive FileTree
  | file (content : ByteArray)
  | directory (entries : List (String × FileTree))

namespace FileTree

def empty : FileTree := directory []

def isDirectory : FileTree → Bool
  | directory _ => true
  | file _ => false

/-- What a name stands for. -/
def child? (tree : FileTree) (name : String) : Option FileTree :=
  match tree with
  | directory entries => entries.lookup name
  | file _ => none

/-- The tree with `name` standing for `node`. -/
def withChild (tree : FileTree) (name : String) (node : FileTree) : FileTree :=
  match tree with
  | directory entries => directory (entries.filter (·.1 != name) ++ [(name, node)])
  | file _ => directory [(name, node)]

/-- The tree with `node` at the end of `names`, and directories on the way to it. -/
def insert (tree : FileTree) (names : List String) (node : FileTree) : FileTree :=
  match names with
  | [] => node
  | name :: names =>
    tree.withChild name (insert ((tree.child? name).getD empty) names node)

/-! ## Following a path -/

/-- A node and the directories above it, the nearest first. -/
structure Place where
  node : FileTree
  above : List FileTree

/-- The longest name that a directory can hold, in octets. -/
def maxNameLength : Nat := 255

/-- A path has fewer octets than this. -/
def maxPathLength : Nat := 4096

/-- Goes on from a place by one name.  An empty name and a single dot stay where they are. -/
def Place.enter (place : Place) (name : String) : Except OsError Place :=
  if !place.node.isDirectory then .error .notADirectory
  else if name = "" ∨ name = "." then .ok place
  else if name = ".." then
    match place.above with
    | [] => .ok place
    | parent :: above => .ok ⟨parent, above⟩
  else if name.utf8ByteSize > maxNameLength then .error .nameTooLong
  else
    match place.node.child? name with
    | some node => .ok ⟨node, place.node :: place.above⟩
    | none => .error .noSuchFile

/-- Follows names one after the other. -/
def Place.follow (place : Place) (names : List String) : Except OsError Place :=
  names.foldlM Place.enter place

/-- Where a path leads to from the working directory, or from the root if it starts with a
slash. -/
def find (root : FileTree) (workingDirectory : List String) (path : String) :
    Except OsError FileTree := do
  if path.isEmpty then throw .noSuchFile
  if path.utf8ByteSize ≥ maxPathLength then throw .nameTooLong
  let start ←
    if path.startsWith "/" then pure ⟨root, []⟩
    else Place.follow ⟨root, []⟩ workingDirectory
  let place ← start.follow (path.splitOn "/")
  return place.node

/-! ## Reading -/

/-- Why a file cannot be read. -/
inductive ReadError
  | system (error : OsError)
  /-- The path has a character that no path can have. -/
  | zeroInPath
  | notUtf8
  deriving DecidableEq, Repr

def ReadError.message : ReadError → String
  | system error => error.message
  | zeroInPath => "file name contained an unexpected NUL byte"
  | notUtf8 => "stream did not contain valid UTF-8"

/-- The content of the file at a path. -/
def read (root : FileTree) (workingDirectory : List String) (path : String) :
    Except ReadError ByteArray :=
  if path.contains '\x00' then .error .zeroInPath
  else
    match root.find workingDirectory path with
    | .error error => .error (.system error)
    | .ok (.directory _) => .error (.system .isADirectory)
    | .ok (.file content) => .ok content

/-- Whether a path leads to a file. -/
def isFile (root : FileTree) (workingDirectory : List String) (path : String) : Bool :=
  match root.read workingDirectory path with
  | .ok _ => true
  | .error _ => false

end FileTree

/-! ## Access -/

/-- What the programs ask of the files of a machine. -/
structure FileAccess (m : Type → Type) where
  /-- Whether a path leads to a file, and not to a directory or nowhere. -/
  isFile : String → m Bool
  /-- The content of the file at a path. -/
  read : String → m (Except FileTree.ReadError ByteArray)

/-- Files of a tree that stays as it is. -/
def FileTree.access {m : Type → Type} [Monad m] (root : FileTree)
    (workingDirectory : List String) : FileAccess m where
  isFile path := return root.isFile workingDirectory path
  read path := return root.read workingDirectory path

/-- The content of a text file. -/
def FileAccess.readText {m : Type → Type} [Monad m] (files : FileAccess m) (path : String) :
    m (Except FileTree.ReadError String) := do
  match ← files.read path with
  | .error error => return .error error
  | .ok content =>
    match String.fromUTF8? content with
    | some text => return .ok text
    | none => return .error .notUtf8

end PortKnock
