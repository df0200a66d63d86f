import LineShell.FileTree.Walk
import LineShell.Input

/-!
# Programs

What a started program does is its own matter: the shell sees only its `Effect`, which depends on
how the program was started. A program takes something from the front of the standard input that it
shares with the shell, writes to its two output streams, may change any files, and ends with an exit
code or by a signal. The shell waits for that end, but may fail to learn how it came about.
-/

namespace LineShell

/-- How a program is started. -/
structure Launch where
  argv : List Bytes
  /-- The path of the working directory, unless that was removed. -/
  workingDirectory : Option Bytes
  files : FileTree
  /-- The standard input that nobody has read yet. -/
  input : Input

inductive Ending where
  | exited (code : UInt8)
  | killed (signal : Fin 128)
  deriving Repr, DecidableEq

/-- The status of an ending: the exit code, or 128 and the signal number. -/
def Ending.status : Ending → Int
  | .exited code => code.toNat
  | .killed signal => 128 + signal.val

structure Effect where
  out : Bytes := []
  err : Bytes := []
  /-- How much it takes from its standard input, bytes and marks. -/
  taken : Nat := 0
  /-- What it makes of the files by itself, once its output is where it goes. -/
  changes : FileTree → FileTree := id
  /-- Where it leaves the directory that the shell works in, which it can rename or remove. -/
  moves : Place → Place := id
  /-- How it ends; nothing if the shell cannot learn that. -/
  ending : Option Ending := some (.exited 0)

abbrev Programs := Nat → Launch → Effect

end LineShell
