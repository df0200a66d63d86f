import LineShell.Builtin
import LineShell.FileTree.Output
import LineShell.Line
import LineShell.Program
import LineShell.Stream

/-!
# Sessions

A session is all that changes while a shell runs: the files, the working directory, the standard
input that is left, what has reached the process's two output streams, the shell's own two streams,
and a journal of what the shell did.

The shell's own streams and the process's are told apart because started programs write to the
process's streams, whereas builtins and diagnostics go to the shell's. The two are the same unless
the shell was given sinks.
-/

namespace LineShell

/-! ## Journal -/

inductive Event where
  | scanned (tokens : List Token)
  | dispatched (command : Command)
  | reported (d : Diagnostic)
  | starting (path : Text) (argv : List Text)
  | finished (name : Text) (status : Int)
  /-- A line was asked for at a terminal. -/
  | asking
  /-- The loop stops because a command asked for it. -/
  | terminating (code : Int)
  | inputEnded
  deriving Repr, DecidableEq

/-! ## Session state -/

structure Session where
  files : FileTree := {}
  cwd : Place := .root
  /-- The process's standard input that nobody has read yet: a terminal, a pipe, or a file that
  nothing writes to or empties while the shell runs. -/
  input : Input := []
  /-- What has reached the process's standard output. -/
  stdout : Bytes := []
  /-- What has reached the process's standard error. -/
  stderr : Bytes := []
  /-- The shell's own stream for regular output. -/
  out : Outlet := .process
  /-- The shell's own stream for diagnostics. -/
  err : Outlet := .process
  journal : List Event := []

/-- Where the regular output of a command goes. -/
inductive Output where
  | inherit
  | file (d : Destination)
  deriving Repr, DecidableEq

namespace Session

def record (s : Session) (e : Event) : Session :=
  { s with journal := s.journal ++ [e] }

/-! ## The shell's own streams -/

/-- Writes to the shell's stream for regular output; the answer is the error if there is one. -/
def writeOut (s : Session) (bs : Bytes) : Option IoError × Session :=
  match s.out with
  | .process => (none, { s with stdout := s.stdout ++ bs })
  | .sink k =>
    let (fault, k) := k.write bs
    (fault, { s with out := .sink k })

def writeErr (s : Session) (bs : Bytes) : Option IoError × Session :=
  match s.err with
  | .process => (none, { s with stderr := s.stderr ++ bs })
  | .sink k =>
    let (fault, k) := k.write bs
    (fault, { s with err := .sink k })

def syncOut (s : Session) : Option IoError × Session :=
  match s.out with
  | .process => (none, s)
  | .sink k =>
    let (fault, k) := k.flush
    (fault, { s with out := .sink k })

def syncErr (s : Session) : Option IoError × Session :=
  match s.err with
  | .process => (none, s)
  | .sink k =>
    let (fault, k) := k.flush
    (fault, { s with err := .sink k })

/-- Writes a line to the stream for diagnostics, whether or not that succeeds. -/
def note (s : Session) (line : Text) : Session :=
  (s.writeErr (Line.ofText line)).2

/-- Reports a diagnostic. Nothing depends on whether it gets through. -/
def report (s : Session) (d : Diagnostic) : Session :=
  (((s.record (.reported d)).note d.text).syncErr).2

/-- Flushes the stream for regular output and reports a failure to do so. -/
def flush (s : Session) : Session :=
  match s.syncOut with
  | (none, s) => s
  | (some fault, s) => s.report (.flush fault)

/-! ## Output of commands -/

/-- Opens the output of a command: the target, if there is one. -/
def openOutput (s : Session) (target : Option Text) : Except Diagnostic (Output × Session) :=
  match target with
  | none => .ok (.inherit, s)
  | some path =>
    match s.files.create s.cwd path with
    | .error fault => .error (.target path fault)
    | .ok (d, files) => .ok (.file d, { s with files := files })

def emit (s : Session) (o : Output) (bs : Bytes) : Option IoError × Session :=
  match o with
  | .inherit => s.writeOut bs
  | .file d =>
    let (fault, files) := s.files.write d bs
    (fault, { s with files := files })

/-- Writes lines up to the first that fails; the answer is its error. -/
def emitLines (s : Session) (o : Output) : List Text → Option IoError × Session
  | [] => (none, s)
  | line :: lines =>
    match s.emit o (Line.ofText line) with
    | (some fault, s) => (some fault, s)
    | (none, s) => s.emitLines o lines

/-- Carries out a builtin's action: its lines, and unless one of them fails its notes, its move and
its result. -/
def perform (s : Session) (o : Output) (a : Action) : Except Diagnostic Outcome × Session :=
  match s.emitLines o a.lines with
  | (some fault, s) => (.error (.output fault), s)
  | (none, s) =>
    let s := a.notes.foldl note s
    (a.result, { s with cwd := a.moveTo.getD s.cwd })

/-- Takes in what a program did to its streams: its input is used up, its diagnostics reach the
process's standard error, and its output goes where the command's output goes. -/
def relay (s : Session) (o : Output) (e : Effect) : Session :=
  let s := { s with input := s.input.drop e.taken, stderr := s.stderr ++ e.err }
  match o with
  | .inherit => { s with stdout := s.stdout ++ e.out }
  | .file d => { s with files := (s.files.write d e.out).2 }

/-- Takes in what a program did to the files. -/
def alter (s : Session) (e : Effect) : Session :=
  { s with files := e.changes s.files, cwd := e.moves s.cwd }

/-- Takes in what a program did. -/
def absorb (s : Session) (o : Output) (e : Effect) : Session :=
  (s.relay o e).alter e

/-- Enters how a program ended, or reports that this cannot be learned. -/
def finish (s : Session) (name : Text) : Option Ending → Session
  | some ending => s.record (.finished name ending.status)
  | none => s.report (.wait name)

/-- Removes an entry and all below it; a working directory among them is lost. -/
def remove (s : Session) (names : Names) : Session :=
  { s with files := s.files.remove names, cwd := s.cwd.afterRemoval names }

/-! ## What leaves the input alone

Only a started program takes from the standard input of a session. -/

@[simp] theorem input_record (s : Session) (e : Event) : (s.record e).input = s.input := rfl

@[simp] theorem input_writeOut (s : Session) (bs : Bytes) : (s.writeOut bs).2.input = s.input := by
  unfold writeOut; split <;> rfl

@[simp] theorem input_writeErr (s : Session) (bs : Bytes) : (s.writeErr bs).2.input = s.input := by
  unfold writeErr; split <;> rfl

@[simp] theorem input_syncOut (s : Session) : s.syncOut.2.input = s.input := by
  unfold syncOut; split <;> rfl

@[simp] theorem input_syncErr (s : Session) : s.syncErr.2.input = s.input := by
  unfold syncErr; split <;> rfl

@[simp] theorem input_note (s : Session) (line : Text) : (s.note line).input = s.input := by
  simp [note]

@[simp] theorem input_report (s : Session) (d : Diagnostic) : (s.report d).input = s.input := by
  simp [report]

@[simp] theorem input_flush (s : Session) : s.flush.input = s.input := by
  have h := input_syncOut s
  unfold flush
  split <;> simp_all

theorem input_openOutput {s s' : Session} {target : Option Text} {o : Output}
    (h : s.openOutput target = .ok (o, s')) : s'.input = s.input := by
  unfold openOutput at h
  split at h
  · simp only [Except.ok.injEq, Prod.mk.injEq] at h
    rw [← h.2]
  · split at h
    · cases h
    · simp only [Except.ok.injEq, Prod.mk.injEq] at h
      rw [← h.2]

@[simp] theorem input_emit (s : Session) (o : Output) (bs : Bytes) :
    (s.emit o bs).2.input = s.input := by
  unfold emit; split <;> simp

@[simp] theorem input_emitLines (o : Output) :
    ∀ (lines : List Text) (s : Session), (s.emitLines o lines).2.input = s.input
  | [], _ => rfl
  | line :: lines, s => by
    have h := input_emit s o (Line.ofText line)
    rw [emitLines]
    split
    · simp_all
    · next hs => rw [hs] at h; rw [input_emitLines o lines]; exact h

@[simp] theorem input_notes (notes : List Text) (s : Session) :
    (notes.foldl note s).input = s.input := by
  induction notes generalizing s with
  | nil => rfl
  | cons line notes ih => simp [ih]

@[simp] theorem input_perform (s : Session) (o : Output) (a : Action) :
    (s.perform o a).2.input = s.input := by
  have h := input_emitLines o a.lines s
  unfold perform
  split
  · simp_all
  · next hs => rw [hs] at h; simpa using h

theorem input_of_perform {s s' : Session} {o : Output} {a : Action}
    {result : Except Diagnostic Outcome} (h : s.perform o a = (result, s')) :
    s'.input = s.input := by
  have hinput := s.input_perform o a
  rwa [h] at hinput

@[simp] theorem input_absorb (s : Session) (o : Output) (e : Effect) :
    (s.absorb o e).input = s.input.drop e.taken := by
  cases o <;> rfl

@[simp] theorem input_finish (s : Session) (name : Text) (ending : Option Ending) :
    (s.finish name ending).input = s.input := by
  cases ending with
  | none => exact s.input_report _
  | some ending => rfl

end Session
end LineShell
