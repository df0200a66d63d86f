import LineShell.Proofs.Session.Steps

/-!
# How streams fail

A stream that was given to the shell never changes the way in which it fails (`Outlet.faults`),
whatever is done to it: no step of a line does that (`lineSteps_faults`). So a stream that cannot
fail at the start of a session cannot fail later.
-/

namespace LineShell

namespace Outlet

/-- How a stream of the shell's own takes writes and refuses flushes, by what was done to it
before. The process's streams do not fail. -/
def faults : Outlet → Option ((Nat → Nat → Option (Nat × IoError)) × (Nat → Option IoError))
  | .process => none
  | .sink k => some (k.room, k.flushFault)

theorem faults_write (k : Sink) (bs : Bytes) : (sink (k.write bs).2).faults = (sink k).faults := by
  unfold Sink.write
  split
  · rfl
  · split <;> rfl

end Outlet

namespace Session

/-- How the two streams of a session fail. -/
def faults (s : Session) := (s.out.faults, s.err.faults)

theorem faults_writeOut (s : Session) (bs : Bytes) : (s.writeOut bs).2.faults = s.faults := by
  unfold writeOut
  split
  · rfl
  · next k hk =>
      unfold faults
      rw [hk]
      exact Prod.ext (Outlet.faults_write k bs) rfl

theorem faults_writeErr (s : Session) (bs : Bytes) : (s.writeErr bs).2.faults = s.faults := by
  unfold writeErr
  split
  · rfl
  · next k hk =>
      unfold faults
      rw [hk]
      exact Prod.ext rfl (Outlet.faults_write k bs)

theorem faults_syncOut (s : Session) : s.syncOut.2.faults = s.faults := by
  unfold syncOut
  split
  · rfl
  · next k hk =>
      unfold faults
      rw [hk]
      rfl

theorem faults_syncErr (s : Session) : s.syncErr.2.faults = s.faults := by
  unfold syncErr
  split
  · rfl
  · next k hk =>
      unfold faults
      rw [hk]
      rfl

theorem lineSteps_faults : LineSteps fun s s' => s'.faults = s.faults where
  refl _ := rfl
  trans h h' := h'.trans h
  writeOut := faults_writeOut
  writeErr := faults_writeErr
  write _ _ _ := rfl
  move _ _ := rfl
  record _ _ := rfl
  syncOut := faults_syncOut
  syncErr := faults_syncErr
  create _ := rfl
  take _ _ := rfl
  print _ _ := rfl
  complain _ _ := rfl

theorem faults_record (s : Session) (e : Event) : (s.record e).faults = s.faults := rfl

theorem faults_note (s : Session) (line : Text) : (s.note line).faults = s.faults :=
  s.faults_writeErr (Line.ofText line)

theorem faults_flush (s : Session) : s.flush.faults = s.faults :=
  lineSteps_faults.flush s

theorem faults_conclude (s : Session) (a : Action) : (s.conclude a).faults = s.faults :=
  lineSteps_faults.conclude s a

theorem faults_absorb (s : Session) (o : Output) (e : Effect) :
    (s.absorb o e).faults = s.faults :=
  lineSteps_faults.absorb (fun _ => rfl) s o

end Session
end LineShell
