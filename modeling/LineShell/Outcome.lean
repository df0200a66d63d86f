import LineShell.Text

/-!
# Outcomes

Running a command has a status and says whether the shell goes on. Ending the shell is a value that
is handed up to the outermost loop, never an effect.

An exit number is the decimal text of a 32-bit integer; the system keeps its low eight bits.
-/

namespace LineShell

inductive Outcome where
  /-- The shell reads on; the code is the command's status. -/
  | proceed (code : Int)
  /-- The shell ends with the code. -/
  | terminate (code : Int)
  deriving Repr, DecidableEq

namespace Outcome

/-- The status, whether or not the shell goes on. -/
def code : Outcome → Int
  | .proceed c => c
  | .terminate c => c

/-- A program that ends with status zero lets the shell go on; any other status ends it. -/
def ofStatus (code : Int) : Outcome :=
  if code = 0 then .proceed 0 else .terminate code

end Outcome

/-! ## Fixed statuses -/

namespace Status

/-- A builtin failed, or a redirect target could not be opened. -/
def failure : Int := 1

/-- The line is no command. -/
def badLine : Int := 2

/-- A program was found but could not be started, or not be waited for. -/
def cannotStart : Int := 126

/-- No builtin and no program has the name. -/
def notFound : Int := 127

end Status

/-! ## Exit numbers -/

/-- The number that `exit` accepts: the decimal text of a 32-bit signed integer. -/
def exitNumber? (t : Text) : Option Int :=
  match t.toInt? with
  | none => none
  | some n => if -2147483648 ≤ n ∧ n ≤ 2147483647 then some n else none

/-- The part of an exit code that reaches the parent process. -/
def exitByte (code : Int) : Nat :=
  (code % 256).toNat

end LineShell
