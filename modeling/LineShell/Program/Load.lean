import LineShell.Program
import LineShell.Program.Script

/-!
# Loading a program

Executing a file starts a program image. A script hands over to its interpreter, which gets the
script's path in front of the script's arguments; the interpreter may be a script again, a limited
number of times. A file that is open for writing cannot be executed, and neither can a directory,
which is what an interpreter without a name is.
-/

namespace LineShell.FileTree

/-- The most files that are looked into for one program. -/
def maxScripts : Nat := 6

/-- Finds the image that executing a path starts, and the arguments it gets. `busy` is the file
that is open for writing, if there is one. -/
def loadWithin (t : FileTree) (cwd : Place) (busy : Option Names) :
    Nat → Bytes → List Bytes → Except IoError (Nat × List Bytes)
  | depth, path, argv =>
    match t.reach cwd .find path with
    | .error e => .error e
    | .ok (.dir _) => .error (.system .accessDenied)
    | .ok (.device _) => .error (.system .accessDenied)
    | .ok (.free _) => .error (.system .noEntry)
    | .ok (.file names f) =>
      if !f.isExecutable then .error (.system .accessDenied)
      else if busy = some names then .error (.system .textBusy)
      else match depth with
        | 0 => .error (.system .linkLoop)
        | depth + 1 => match f.content with
          | .image program => .ok (program, argv)
          | .bytes data => match Script.interpreter? data with
            | none => .error (.system .notExecutable)
            | some (interpreter, argument) =>
              loadWithin t cwd busy depth (if interpreter = [] then Name.here else interpreter)
                (interpreter :: argument.toList ++ path :: argv.drop 1)

/-- The most bytes that an argument can have, a NUL byte after it included. -/
def maxArgument : Nat := 131072

/-- Finds the image that executing a path starts, and the arguments it gets. No argument may hold a
NUL character or be too long. -/
def load (t : FileTree) (cwd : Place) (busy : Option Names) (path : Text) (argv : List Text) :
    Except IoError (Nat × List Bytes) :=
  if argv.any (·.contains '\x00') then .error .nulInArgument
  else if argv.any (fun arg => maxArgument ≤ (Utf8.encode arg).length) then
    .error (.system .argumentTooLong)
  else t.loadWithin cwd busy maxScripts (Utf8.encode path) (argv.map Utf8.encode)

end LineShell.FileTree
