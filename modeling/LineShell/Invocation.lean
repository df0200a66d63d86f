import LineShell.Log
import LineShell.Loop

/-!
# Invoking the shell

An invocation is what a shell finds when it is started from outside: its arguments, the variables,
the files, the working directory and the standard input. Its answer is an exit status from 0 to 255
and what it wrote.

With a line in the options, that line alone is run and its status becomes the exit status. Otherwise
lines are read from standard input, which may be a terminal. Complaints about the log setting come
before everything else.
-/

namespace LineShell

/-- What a shell finds when it is started. -/
structure Invocation where
  args : List Text := []
  vars : List (Text × Text) := []
  files : FileTree := {}
  cwd : Place := .root
  input : Bytes := []
  isTerminal : Bool := false

/-- What a shell leaves behind. -/
structure Completion where
  status : Nat
  stdout : Bytes := []
  stderr : Bytes := []
  files : FileTree := {}
  journal : List Event := []
  filter : LogFilter := []

def Completion.hasLogged (c : Completion) : Bool :=
  c.journal.any c.filter.admits

namespace Invocation

/-- The variables that the shell takes over. -/
def environment (inv : Invocation) : Environment :=
  ⟨inv.vars.filter fun x => x.1 = "PATH".toList ∨ x.1 = "HOME".toList⟩

def session (inv : Invocation) : Session :=
  { files := inv.files, cwd := inv.cwd,
    input := if inv.isTerminal then Terminal.deliver inv.input else .ofBytes inv.input }

/-- The complaint about input that is not valid UTF-8. -/
def malformedComplaint : Text :=
  let reason := "stream did not contain valid UTF-8".toList
  Diagnostic.about shellName (Diagnostic.about reason reason)

/-- Runs what the options ask for. -/
def runOptions (inv : Invocation) (programs : Programs) (opts : Options) : LoopEnd × Session :=
  let sh : Shell := { env := inv.environment, programs := programs }
  match opts.command with
  | some line =>
    let (outcome, s) := sh.executeLine line inv.session
    (.code outcome.code, s)
  | none =>
    sh.loop (if inv.isTerminal then .terminal else .standardInput) inv.session

/-- The exit status of a shell that breaks off. -/
def brokenStatus : Nat := 101

def run (inv : Invocation) (programs : Programs) : Completion :=
  match Options.ofArgs inv.args with
  | .error .help => { status := 0, stdout := Utf8.encode Usage.helpText, files := inv.files }
  | .error u => { status := 1, stderr := Utf8.encode u.advice, files := inv.files }
  | .ok opts =>
    let setting := LogSetting.ofOptions (inv.vars.lookup "RUST_LOG".toList) opts
    let complaints := setting.complaints.flatMap Line.ofText
    if setting.isBroken then { status := brokenStatus, stderr := complaints, files := inv.files }
    else
      let (stop, s) := inv.runOptions programs opts
      let done : Completion :=
        { status := brokenStatus, stdout := s.stdout, stderr := complaints ++ s.stderr,
          files := s.files, journal := s.journal, filter := setting.filter }
      match stop with
      | .code c => { done with status := exitByte c }
      | .malformed =>
        { done with status := 1, stderr := done.stderr ++ Line.ofText malformedComplaint }
      | .broken => done

end Invocation
end LineShell
