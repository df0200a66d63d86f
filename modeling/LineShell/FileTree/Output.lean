import LineShell.FileTree.Walk

/-!
# Opening and writing files

Opening a path for output makes the file if nothing lies at the end of the walk, and empties it
otherwise; only one entry of the tree can change, and an emptied file keeps its permissions. What is
opened is a `Destination`, and writing to it adds at the end.

Neither is refused for a lack of permissions, and files have room for whatever is written to them:
only the full device refuses bytes.
-/

namespace LineShell

/-- Something opened for output. -/
inductive Destination where
  | file (names : Names)
  | device (d : Device)
  deriving Repr, DecidableEq

/-- The place of the file that a destination is, if it is one. -/
def Destination.names? : Destination → Option Names
  | .file names => some names
  | .device _ => none

namespace FileTree

/-- Opens a path for output, making or emptying the file. -/
def create (t : FileTree) (cwd : Place) (p : Text) : Except IoError (Destination × FileTree) :=
  match t.resolve cwd .make p with
  | .error e => .error e
  | .ok (.dir _) => .error (.system .isDirectory)
  | .ok (.device d) => .ok (.device d, t)
  | .ok (.file names f) => .ok (.file names, t.insert names (.file f.truncate))
  | .ok (.free names) => .ok (.file names, t.insert names (.file ⟨.bytes [], File.plainMode⟩))

/-- Writes bytes to a destination; the answer is the error if there is one. -/
def write (t : FileTree) (d : Destination) (bs : Bytes) : Option IoError × FileTree :=
  match d with
  | .device .null => (none, t)
  | .device .full => if bs = [] then (none, t) else (some (.system .noSpace), t)
  | .file names =>
    match t.get? names with
    | some (.file f) => (none, t.insert names (.file (f.extend bs)))
    | _ => (none, t)

end FileTree
end LineShell
