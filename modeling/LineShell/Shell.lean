import LineShell.Builtin.Standard
import LineShell.Program.Load
import LineShell.Session

/-!
# Shells

A shell is an environment, a registry of builtins, and the behaviour of programs; none of them
changes while it runs. It executes commands and lines on a session.

A registered name runs its builtin: the target is opened first, then the builtin acts, and whatever
goes wrong is reported with status one. Any other name is a program: an unknown one is reported
before anything is opened, a failure to start is reported after the target was opened, and so is a
failure to wait for the program once that has run. A program that ends with a status other than zero
ends the shell.
-/

namespace LineShell

/-- What stays fixed while a shell runs. -/
structure Shell where
  env : Environment := {}
  builtins : Registry := .standard
  programs : Programs := fun _ _ => {}

namespace Shell

/-- What a builtin can see in a session. -/
def context (sh : Shell) (s : Session) : Context :=
  ⟨sh.env, s.files, s.cwd, sh.builtins.contains⟩

/-! ## Builtins -/

/-- Runs a builtin with its output opened. -/
def act (sh : Shell) (b : Builtin) (args : List Text) (o : Output) (s : Session) :
    Except Diagnostic Outcome × Session :=
  s.perform o (b.act (sh.context s) args)

def runBuiltin (sh : Shell) (b : Builtin) (args : List Text) (target : Option Text) (s : Session) :
    Outcome × Session :=
  match s.openOutput target with
  | .error d => (.proceed Status.failure, s.report d)
  | .ok (o, s) =>
    match sh.act b args o s with
    | (.ok outcome, s) => (outcome, s)
    | (.error d, s) => (.proceed Status.failure, s.report d)

/-! ## Programs -/

/-- The file that an output holds open. -/
def heldFile : Output → Option Names
  | .inherit => none
  | .file d => d.names?

/-- Starts a program, waits for it to end, and takes in what it did. -/
def start (sh : Shell) (path : Text) (argv : List Text) (o : Output) (s : Session) :
    Except IoError (Option Ending) × Session :=
  match s.files.load s.cwd (heldFile o) path argv with
  | .error fault => (.error fault, s)
  | .ok (program, argv) =>
    let effect := sh.programs program ⟨argv, s.cwd.path?, s.files, s.input⟩
    (.ok effect.ending, s.absorb o effect)

/-- The outcome of a program that was started. -/
def outcomeOf : Option Ending → Outcome
  | some ending => .ofStatus ending.status
  | none => .proceed Status.cannotStart

def runProgram (sh : Shell) (name : Text) (args : List Text) (target : Option Text) (s : Session) :
    Outcome × Session :=
  match sh.env.locate s.files s.cwd name with
  | none => (.proceed Status.notFound, s.report (.notFound name))
  | some path =>
    match s.openOutput target with
    | .error d => (.proceed Status.failure, s.report d)
    | .ok (o, s) =>
      match sh.start path (name :: args) o (s.flush.record (.starting path (name :: args))) with
      | (.error fault, s) => (.proceed Status.cannotStart, s.report (.start name fault))
      | (.ok ending, s) => (outcomeOf ending, s.finish name ending)

/-! ## Commands and lines -/

def execute (sh : Shell) (c : Command) (s : Session) : Outcome × Session :=
  let s := s.record (.dispatched c)
  match sh.builtins.get? c.name with
  | some b => sh.runBuiltin b c.args c.target s
  | none => sh.runProgram c.name c.args c.target s

/-- Executes what a token list spells, if it spells something. -/
def executeTokens (sh : Shell) (ts : List Token) (s : Session) : Outcome × Session :=
  match Command.ofTokens ts with
  | .error e => (.proceed Status.badLine, s.report (.badLine e))
  | .ok none => (.proceed 0, s)
  | .ok (some c) => sh.execute c s

/-- Executes a line and flushes the shell's regular output. -/
def executeLine (sh : Shell) (line : Text) (s : Session) : Outcome × Session :=
  let ts := Token.tokenize line
  let (outcome, s) := sh.executeTokens ts (s.record (.scanned ts))
  (outcome, s.flush)

/-! ## Standard input only gets used up

What is left of the standard input after a line is a suffix of what was there before it: builtins
leave it alone, and a program takes its bytes from the front.
-/

theorem input_start (sh : Shell) (path : Text) (argv : List Text) (o : Output) (s : Session) :
    (sh.start path argv o s).2.input <:+ s.input := by
  unfold start
  split
  · exact List.suffix_rfl
  · simpa using List.drop_suffix _ _

theorem input_act (sh : Shell) (b : Builtin) (args : List Text) (o : Output) (s : Session) :
    (sh.act b args o s).2.input = s.input := by
  simp [act]

theorem input_runBuiltin (sh : Shell) (b : Builtin) (args : List Text) (target : Option Text)
    (s : Session) : (sh.runBuiltin b args target s).2.input = s.input := by
  unfold runBuiltin
  split
  · simp
  · next o s' hopen =>
    have hact := sh.input_act b args o s'
    rw [Session.input_openOutput hopen] at hact
    split <;> next hrun => rw [hrun] at hact; simpa using hact

theorem input_runProgram (sh : Shell) (name : Text) (args : List Text) (target : Option Text)
    (s : Session) : (sh.runProgram name args target s).2.input <:+ s.input := by
  unfold runProgram
  split
  · simp
  · next path _ =>
    split
    · simp
    · next o s' hopen =>
      have hstart := sh.input_start path (name :: args) o
        (s'.flush.record (.starting path (name :: args)))
      simp only [Session.input_record, Session.input_flush, Session.input_openOutput hopen]
        at hstart
      split <;> next hrun => rw [hrun] at hstart; simpa using hstart

theorem input_execute (sh : Shell) (c : Command) (s : Session) :
    (sh.execute c s).2.input <:+ s.input := by
  unfold execute
  split
  · simp [input_runBuiltin]
  · exact sh.input_runProgram c.name c.args c.target (s.record (.dispatched c))

theorem input_executeLine (sh : Shell) (line : Text) (s : Session) :
    (sh.executeLine line s).2.input <:+ s.input := by
  simp only [executeLine, Session.input_flush, executeTokens]
  split
  · simp
  · simp
  · exact sh.input_execute _ (s.record (.scanned (Token.tokenize line)))

end Shell
end LineShell
