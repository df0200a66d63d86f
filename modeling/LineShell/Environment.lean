import LineShell.FileTree.Walk

/-!
# Environment and program search

An environment maps variable names to values. The shell reads two of them: `PATH`, the directories
that are searched for programs, and `HOME`, which a leading tilde stands for. A missing variable and
an empty one mean the same to both readers.

A name of one component is searched for in the directories of `PATH`, in order, and the first
executable file wins. Any other name is used as it stands.
-/

namespace LineShell

/-- Variables and their values; the first binding of a name counts. -/
structure Environment where
  vars : List (Text × Text) := []
  deriving Repr, DecidableEq

namespace Environment

def get? (env : Environment) (key : Text) : Option Text :=
  env.vars.lookup key

/-- The directories to search, separated by colons. -/
def searchPath (env : Environment) : Text :=
  (env.get? "PATH".toList).getD []

/-- The home directory, if it is set and not empty. -/
def home? (env : Environment) : Option Text :=
  (env.get? "HOME".toList).filter (· ≠ [])

/-- What follows a leading tilde, if the path is a tilde alone or begins with a tilde and a
slash. -/
def afterTilde? : Text → Option Text
  | ['~'] => some []
  | '~' :: '/' :: rest => some rest
  | _ => none

/-- The path with a leading tilde replaced by the home directory. Without a home directory, and for
a tilde that belongs to a name, the path stays as it is. -/
def expandTilde (env : Environment) (path : Text) : Text :=
  match afterTilde? path, env.home? with
  | some [], some home => home
  | some rest, some home => Path.append home rest
  | _, _ => path

end Environment

/-! ## Program search -/

namespace FileTree

/-- The candidates for a name, in the order in which they are tried. -/
def candidates (searchPath name : Text) : List Text :=
  ((Text.split ':' searchPath).filter (· ≠ [])).map fun dir => Path.append dir name

/-- The first candidate that may be executed. -/
def search (t : FileTree) (cwd : Place) (searchPath name : Text) : Option Text :=
  (candidates searchPath name).find? (t.isExecutable cwd)

def locate (t : FileTree) (cwd : Place) (searchPath name : Text) : Option Text :=
  match Path.soleComponent? name with
  | some component => t.search cwd searchPath component
  | none => if t.isExecutable cwd name then some name else none

end FileTree

namespace Environment

/-- The path of the program that a command name stands for, by this environment's search path. -/
def locate (env : Environment) (t : FileTree) (cwd : Place) (name : Text) : Option Text :=
  t.locate cwd env.searchPath name

end Environment
end LineShell
