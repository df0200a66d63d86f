import LineShell.Proofs.Session.Faults
import LineShell.Shell

/-!
# What becomes of a command

A command is taken up (`Session.takenUp`), its name decides between a builtin and a program, its
output is opened (`Session.directed`), and then the builtin acts or the program is started
(`Session.launching`). The lemmas tell the result for each of these courses by what decides about
it: `Invokes` and `Launches` say that a builtin or a program is reached with its output open,
`action` and `attempt` what it does then.

What decides is read off the session before the command. Looking up, opening and loading depend only
on its store, which the records and flushes in between leave alone.
-/

namespace LineShell

/-- Opens the output of a command: the target, if there is one. -/
def FileTree.openTarget (t : FileTree) (cwd : Place) :
    Option Text → Except Diagnostic (Output × FileTree)
  | none => .ok (.inherit, t)
  | some p => match t.create cwd p with
    | .error fault => .error (.target p fault)
    | .ok (d, t') => .ok (.file d, t')

namespace Session

theorem openOutput_eq (s : Session) (target : Option Text) :
    s.openOutput target = match s.files.openTarget s.cwd target with
      | .error d => .error d
      | .ok (o, files) => .ok (o, { s with files := files }) := by
  cases target with
  | none => rfl
  | some p =>
      rw [openOutput, FileTree.openTarget]
      cases s.files.create s.cwd p <;> rfl

/-- The session once a command was taken up. -/
def takenUp (s : Session) (c : Command) : Session :=
  s.record (.dispatched c)

/-- The session once the output of a command is open. -/
def directed (s : Session) (c : Command) (files : FileTree) : Session :=
  { s.takenUp c with files := files }

/-- The session once the program of a command is about to be started. -/
def launching (s : Session) (c : Command) (path : Text) (files : FileTree) : Session :=
  (s.directed c files).flush.record (.starting path (c.name :: c.args))

theorem store_launching (s : Session) (c : Command) (path : Text) (files : FileTree) :
    (s.launching c path files).store = ⟨files, s.cwd, s.input⟩ := by
  rw [launching, store_record, store_flush]
  rfl

theorem faults_launching (s : Session) (c : Command) (path : Text) (files : FileTree) :
    (s.launching c path files).faults = s.faults := by
  rw [launching, faults_record, faults_flush]
  rfl

/-- The outcome of a builtin: a failure is reported. -/
def settle : Except Diagnostic Outcome × Session → Outcome × Session
  | (.ok outcome, s) => (outcome, s)
  | (.error d, s) => (.proceed Status.failure, s.report d)

end Session

namespace Shell

/-! ## Conditions -/

/-- The command runs a builtin, and its output can be opened. -/
structure Invokes (sh : Shell) (s : Session) (c : Command) (b : Builtin) (o : Output)
    (files : FileTree) : Prop where
  builtin : sh.builtins.get? c.name = some b
  opened : s.files.openTarget s.cwd c.target = .ok (o, files)

theorem Invokes.standard {sh : Shell} {s : Session} {c : Command} {b : Builtin} {o : Output}
    {files : FileTree} (h : sh.Invokes s c b o files) (hstd : sh.builtins = .standard) :
    Registry.standard.get? c.name = some b :=
  hstd ▸ h.builtin

theorem Invokes.unique {sh : Shell} {s : Session} {c : Command} {b b' : Builtin} {o o' : Output}
    {files files' : FileTree} (h : sh.Invokes s c b o files) (h' : sh.Invokes s c b' o' files') :
    b' = b ∧ o' = o ∧ files' = files := by
  have hbuiltin := h'.builtin.symm.trans h.builtin
  have hopened := h'.opened.symm.trans h.opened
  cases hbuiltin
  cases hopened
  exact ⟨rfl, rfl, rfl⟩

/-- The command stands for a program, and its output can be opened. -/
structure Launches (sh : Shell) (s : Session) (c : Command) (path : Text) (o : Output)
    (files : FileTree) : Prop where
  builtin : sh.builtins.get? c.name = none
  program : sh.env.locate s.files s.cwd c.name = some path
  opened : s.files.openTarget s.cwd c.target = .ok (o, files)

theorem Launches.unique {sh : Shell} {s : Session} {c : Command} {path path' : Text}
    {o o' : Output} {files files' : FileTree} (h : sh.Launches s c path o files)
    (h' : sh.Launches s c path' o' files') : path' = path ∧ o' = o ∧ files' = files := by
  have hprogram := h'.program.symm.trans h.program
  have hopened := h'.opened.symm.trans h.opened
  cases hprogram
  cases hopened
  exact ⟨rfl, rfl, rfl⟩

/-- The name is a builtin's or leads to a program. -/
def Knows (sh : Shell) (s : Session) (name : Text) : Prop :=
  sh.builtins.get? name ≠ none ∨ sh.env.locate s.files s.cwd name ≠ none

theorem knows_of_builtin {sh : Shell} {s : Session} {name : Text} {b : Builtin}
    (h : sh.builtins.get? name = some b) : sh.Knows s name :=
  Or.inl (by rw [h]; exact Option.some_ne_none b)

theorem knows_of_program {sh : Shell} {s : Session} {name path : Text}
    (h : sh.env.locate s.files s.cwd name = some path) : sh.Knows s name :=
  Or.inr (by rw [h]; exact Option.some_ne_none path)

theorem not_knows {sh : Shell} {s : Session} {name : Text} : ¬ sh.Knows s name ↔
    sh.builtins.get? name = none ∧ sh.env.locate s.files s.cwd name = none := by
  rw [Knows, not_or, Decidable.not_not, Decidable.not_not]

/-- What a builtin answers once its output is open. -/
def action (sh : Shell) (s : Session) (c : Command) (b : Builtin) (files : FileTree) : Action :=
  b.act ⟨sh.env, files, s.cwd, sh.builtins.contains⟩ c.args

/-- Starts a program once its output is open: why that fails, or what the program does. -/
def attempt (sh : Shell) (s : Session) (c : Command) (path : Text) (o : Output) (files : FileTree) :
    Except IoError Effect :=
  match files.load s.cwd (heldFile o) path (c.name :: c.args) with
  | .error fault => .error fault
  | .ok (program, argv) => .ok (sh.programs program ⟨argv, s.cwd.path?, files, s.input⟩)

/-- What programs do in all cases, a started program does. -/
theorem effect_of_attempt {sh : Shell} {P : Effect → Prop}
    (h : ∀ program launch, P (sh.programs program launch)) {s : Session} {c : Command} {path : Text}
    {o : Output} {files : FileTree} {e : Effect} (hstart : sh.attempt s c path o files = .ok e) :
    P e := by
  unfold attempt at hstart
  split at hstart
  · cases hstart
  · cases hstart
    exact h _ _

/-- No program changes a file, and none moves the working directory. -/
def KeepsFiles (sh : Shell) : Prop :=
  ∀ program launch, (sh.programs program launch).KeepsFiles

/-- How far a command gets: it is unknown, its output cannot be opened, or it reaches a builtin or a
program. -/
theorem command_cases (sh : Shell) (s : Session) (c : Command) :
    (sh.builtins.get? c.name = none ∧ sh.env.locate s.files s.cwd c.name = none)
      ∨ (∃ d, sh.Knows s c.name ∧ s.files.openTarget s.cwd c.target = .error d)
      ∨ (∃ b o files, sh.Invokes s c b o files) ∨ ∃ path o files, sh.Launches s c path o files := by
  by_cases hknows : sh.Knows s c.name
  · cases hopen : s.files.openTarget s.cwd c.target with
    | error d => exact Or.inr (Or.inl ⟨d, hknows, rfl⟩)
    | ok output =>
        obtain ⟨o, files⟩ := output
        cases hbuiltin : sh.builtins.get? c.name with
        | some b => exact Or.inr (Or.inr (Or.inl ⟨b, o, files, hbuiltin, hopen⟩))
        | none =>
            have hprogram := hknows.resolve_left (not_not_intro hbuiltin)
            obtain ⟨path, hpath⟩ := Option.ne_none_iff_exists'.mp hprogram
            exact Or.inr (Or.inr (Or.inr ⟨path, o, files, hbuiltin, hpath, hopen⟩))
  · exact Or.inl (not_knows.mp hknows)

/-! ## Results -/

variable {sh : Shell} {s : Session} {c : Command}

theorem execute_builtin {b : Builtin} (h : sh.builtins.get? c.name = some b) :
    sh.execute c s = sh.runBuiltin b c.args c.target (s.takenUp c) := by
  rw [execute, h]
  rfl

theorem execute_program (h : sh.builtins.get? c.name = none) :
    sh.execute c s = sh.runProgram c.name c.args c.target (s.takenUp c) := by
  rw [execute, h]
  rfl

theorem execute_unknown (hbuiltin : sh.builtins.get? c.name = none)
    (hprogram : sh.env.locate s.files s.cwd c.name = none) :
    sh.execute c s = (.proceed Status.notFound, (s.takenUp c).report (.notFound c.name)) := by
  have hprogram' : sh.env.locate (s.takenUp c).files (s.takenUp c).cwd c.name = none := hprogram
  rw [execute_program hbuiltin, runProgram, hprogram']

theorem openOutput_takenUp (s : Session) (c : Command) :
    (s.takenUp c).openOutput c.target
      = match s.files.openTarget s.cwd c.target with
        | .error d => .error d
        | .ok (o, files) => .ok (o, s.directed c files) :=
  (s.takenUp c).openOutput_eq c.target

theorem execute_unopened {d : Diagnostic} (hknown : sh.Knows s c.name)
    (hopen : s.files.openTarget s.cwd c.target = .error d) :
    sh.execute c s = (.proceed Status.failure, (s.takenUp c).report d) := by
  have hopen' := openOutput_takenUp s c
  rw [hopen] at hopen'
  cases hbuiltin : sh.builtins.get? c.name with
  | some b => rw [execute_builtin hbuiltin, runBuiltin, hopen']
  | none =>
      have hprogram := hknown.resolve_left (not_not_intro hbuiltin)
      obtain ⟨path, hpath⟩ := Option.ne_none_iff_exists'.mp hprogram
      have hpath' : sh.env.locate (s.takenUp c).files (s.takenUp c).cwd c.name = some path := hpath
      rw [execute_program hbuiltin, runProgram, hpath']
      simp only [hopen']

theorem execute_invokes {b : Builtin} {o : Output} {files : FileTree}
    (h : sh.Invokes s c b o files) :
    sh.execute c s
      = Session.settle ((s.directed c files).perform o (sh.action s c b files)) := by
  have hopen := openOutput_takenUp s c
  rw [h.opened] at hopen
  have hact : sh.act b c.args o (s.directed c files)
      = (s.directed c files).perform o (sh.action s c b files) := rfl
  rw [execute_builtin h.builtin, runBuiltin, hopen]
  simp only [hact]
  cases (s.directed c files).perform o (sh.action s c b files) with
  | mk result s' => cases result <;> rfl

/-- The flush and the record before a program starts do not change what decides about it. -/
theorem start_launching (sh : Shell) (s : Session) (c : Command) (path : Text) (o : Output)
    (files : FileTree) :
    sh.start path (c.name :: c.args) o (s.launching c path files)
      = match sh.attempt s c path o files with
        | .error fault => (.error fault, s.launching c path files)
        | .ok e => (.ok e.ending, (s.launching c path files).absorb o e) := by
  have hstore := s.store_launching c path files
  simp only [start, attempt, Session.files_eq hstore, Session.cwd_eq hstore,
    Session.input_eq hstore]
  cases files.load s.cwd (heldFile o) path (c.name :: c.args) <;> rfl

theorem execute_launches {path : Text} {o : Output} {files : FileTree}
    (h : sh.Launches s c path o files) :
    sh.execute c s = match sh.start path (c.name :: c.args) o (s.launching c path files) with
      | (.error fault, s') => (.proceed Status.cannotStart, s'.report (.start c.name fault))
      | (.ok ending, s') => (outcomeOf ending, s'.finish c.name ending) := by
  have hopen := openOutput_takenUp s c
  rw [h.opened] at hopen
  have hpath : sh.env.locate (s.takenUp c).files (s.takenUp c).cwd c.name = some path := h.program
  rw [execute_program h.builtin, runProgram, hpath]
  simp only [hopen]
  rfl

theorem execute_unstarted {path : Text} {o : Output} {files : FileTree} {fault : IoError}
    (h : sh.Launches s c path o files) (hstart : sh.attempt s c path o files = .error fault) :
    sh.execute c s = (.proceed Status.cannotStart,
      (s.launching c path files).report (.start c.name fault)) := by
  rw [execute_launches h, start_launching, hstart]

theorem execute_ended {path : Text} {o : Output} {files : FileTree} {e : Effect}
    (h : sh.Launches s c path o files) (hstart : sh.attempt s c path o files = .ok e) :
    sh.execute c s = (outcomeOf e.ending,
      ((s.launching c path files).absorb o e).finish c.name e.ending) := by
  rw [execute_launches h, start_launching, hstart]

end Shell
end LineShell
