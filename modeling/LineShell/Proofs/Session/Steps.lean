import LineShell.Proofs.Session.Store

/-!
# Relations that every operation keeps

Whatever a shell does to its session is made of a few basic steps: writes and flushes of the two
streams, a write to an opened file, records, a change of directory, the opening of a target, and
what comes from a program. A relation between the sessions before and after, if it composes and
holds for the basic steps, holds for every operation made of them.

`ActionSteps` names the basic steps that carrying out a builtin's action takes, and `LineSteps` the
rest of those that a line can take. What a program itself does to the files can be anything, unless
it `KeepsFiles`.
-/

namespace LineShell

/-- The program changes no file, and the working directory stays where it is. -/
structure Effect.KeepsFiles (e : Effect) : Prop where
  files : ∀ t, e.changes t = t
  cwd : ∀ place, e.moves place = place

/-- A program that does nothing changes no file. -/
theorem Effect.keepsFiles_default : ({} : Effect).KeepsFiles := ⟨fun _ => rfl, fun _ => rfl⟩

namespace Session

theorem alter_of_keepsFiles {e : Effect} (h : e.KeepsFiles) (s : Session) : s.alter e = s := by
  rw [alter, h.files, h.cwd]

/-! ## What builtins do -/

/-- The relation composes and holds for each basic step of carrying out an action. -/
structure ActionSteps (R : Session → Session → Prop) : Prop where
  refl : ∀ s, R s s
  trans : ∀ {s s' s''}, R s s' → R s' s'' → R s s''
  writeOut : ∀ s bs, R s (s.writeOut bs).2
  writeErr : ∀ s bs, R s (s.writeErr bs).2
  write : ∀ s d bs, R s { s with files := (s.files.write d bs).2 }
  move : ∀ s place, R s { s with cwd := place }

namespace ActionSteps

variable {R : Session → Session → Prop}

theorem emit (h : ActionSteps R) (s : Session) (o : Output) (bs : Bytes) :
    R s (s.emit o bs).2 := by
  cases o with
  | inherit => exact h.writeOut s bs
  | file d => exact h.write s d bs

theorem emitLines (h : ActionSteps R) (o : Output) (lines : List Text) (s : Session) :
    R s (s.emitLines o lines).2 := by
  induction lines generalizing s with
  | nil => exact h.refl s
  | cons line lines ih =>
      rw [emitLines_cons]
      have hline := h.emit s o (Line.ofText line)
      split
      · exact hline
      · exact h.trans hline (ih _)

theorem notes (h : ActionSteps R) (lines : List Text) (s : Session) :
    R s (lines.foldl note s) := by
  induction lines generalizing s with
  | nil => exact h.refl s
  | cons line lines ih => exact h.trans (h.writeErr s (Line.ofText line)) (ih _)

theorem conclude (h : ActionSteps R) (s : Session) (a : Action) : R s (s.conclude a) :=
  h.trans (h.notes a.notes s) (h.move _ _)

theorem perform (h : ActionSteps R) (s : Session) (o : Output) (a : Action) :
    R s (s.perform o a).2 := by
  have hlines := h.emitLines o a.lines s
  rw [perform_eq]
  split
  · exact hlines
  · exact h.trans hlines (h.conclude _ a)

end ActionSteps

/-! ## What lines do -/

/-- The relation holds for the other basic steps of a line as well. -/
structure LineSteps (R : Session → Session → Prop) : Prop extends ActionSteps R where
  record : ∀ s e, R s (s.record e)
  syncOut : ∀ s, R s s.syncOut.2
  syncErr : ∀ s, R s s.syncErr.2
  create : ∀ {s : Session} {p : Text} {d : Destination} {files : FileTree},
    s.files.create s.cwd p = .ok (d, files) → R s { s with files := files }
  take : ∀ s n, R s { s with input := s.input.drop n }
  print : ∀ s bs, R s { s with stdout := s.stdout ++ bs }
  complain : ∀ s bs, R s { s with stderr := s.stderr ++ bs }

namespace LineSteps

variable {R : Session → Session → Prop}

theorem report (h : LineSteps R) (s : Session) (d : Diagnostic) : R s (s.report d) :=
  h.trans (h.trans (h.record s (.reported d)) (h.writeErr _ _)) (h.syncErr _)

theorem flush (h : LineSteps R) (s : Session) : R s s.flush := by
  rw [flush_eq]
  split
  · exact h.syncOut s
  · exact h.trans (h.syncOut s) (h.report _ _)

theorem openOutput (h : LineSteps R) {s s' : Session} {target : Option Text} {o : Output}
    (hopen : s.openOutput target = .ok (o, s')) : R s s' := by
  cases target with
  | none =>
      cases hopen
      exact h.refl s
  | some p =>
      rw [Session.openOutput] at hopen
      split at hopen
      · cases hopen
      · next hcreate =>
          cases hopen
          exact h.create hcreate

theorem finish (h : LineSteps R) (s : Session) (name : Text) (ending : Option Ending) :
    R s (s.finish name ending) := by
  cases ending with
  | none => exact h.report s _
  | some ending => exact h.record s _

theorem relay (h : LineSteps R) (s : Session) (o : Output) (e : Effect) : R s (s.relay o e) := by
  have htaken := h.trans (h.take s e.taken) (h.complain _ e.err)
  cases o with
  | inherit => exact h.trans htaken (h.print _ e.out)
  | file d => exact h.trans htaken (h.write _ d e.out)

theorem absorb (h : LineSteps R) {e : Effect} (halter : ∀ s, R s (s.alter e)) (s : Session)
    (o : Output) : R s (s.absorb o e) :=
  h.trans (h.relay s o e) (halter _)

end LineSteps

end Session
end LineShell
