import LineShell.LineSource
import LineShell.Shell

/-!
# The read loop

A turn of the loop shows a prompt on the process's standard output, reads a line and executes it.
The loop takes turns until there are no more lines or a command ends the shell. It ends because
every turn uses up some of what the line source can still hand out, and executing a line never adds
to that (`unread_turn_lt`).
-/

namespace LineShell

def prompt : Text := "$ ".toList

inductive LoopEnd where
  /-- With the code that the shell exits with. -/
  | code (c : Int)
  /-- With a typed line that is not valid UTF-8. -/
  | malformed
  /-- The shell broke off at a backspace that would cut a character. -/
  | broken
  deriving Repr, DecidableEq

inductive Turn where
  | over (e : LoopEnd)
  | again (src : LineSource)
  deriving Repr, DecidableEq

/-- Shows the prompt on the process's standard output, before a line is read. -/
def Session.invite (s : Session) (src : LineSource) : Session :=
  let s := { s with stdout := s.stdout ++ Utf8.encode prompt }
  if src.isTyped then s.record .asking else s

namespace Shell

def answer (sh : Shell) (src : LineSource) (s : Session) : LineSource.Reading → Turn × Session
  | .ended => (.over (.code 0), s.record .inputEnded)
  | .malformed => (.over .malformed, s)
  | .miscut => (.over .broken, s)
  | .line line =>
    match sh.executeLine line s with
    | (.terminate code, s) => (.over (.code code), s.record (.terminating code))
    | (.proceed _, s) => (.again src, s)

def turn (sh : Shell) (src : LineSource) (s : Session) : Turn × Session :=
  let next := src.read s.input
  sh.answer next.2.1 { s.invite src with input := next.2.2 } next.1

theorem unread_turn_lt {sh : Shell} {src src' : LineSource} {s s' : Session}
    (h : sh.turn src s = (.again src', s')) : src'.unread s'.input < src.unread s.input := by
  unfold turn at h
  cases hread : (src.read s.input).1 with
  | ended => simp [hread, answer] at h
  | malformed => simp [hread, answer] at h
  | miscut => simp [hread, answer] at h
  | line line =>
    have hlt := src.unread_read_lt s.input (by simp [hread])
    have hle := (sh.input_executeLine line
      { s.invite src with input := (src.read s.input).2.2 }).length_le
    simp only [hread, answer] at h
    split at h
    · simp at h
    · next hrun =>
      simp only [Prod.mk.injEq, Turn.again.injEq] at h
      obtain ⟨rfl, rfl⟩ := h
      rw [hrun] at hle
      simp only [LineSource.unread] at hlt ⊢
      simp only at hle
      omega

/-- Reads and executes lines until the source has no more or a command ends the shell. -/
def loop (sh : Shell) (src : LineSource) (s : Session) : LoopEnd × Session :=
  match _h : sh.turn src s with
  | (.over e, s') => (e, s')
  | (.again src', s') => loop sh src' s'
termination_by src.unread s.input
decreasing_by exact unread_turn_lt _h

end Shell
end LineShell
