import LineShell.Proofs.FileTree.Change
import LineShell.Proofs.Session.Steps

/-!
# What output changes

The regular output of a command goes to the shell's own stream, which changes no files, or to what
was opened for it, which changes one entry at most (`Output.Frames`). Whatever a builtin prints and
whatever a program prints is written in this way (`frames_perform`, `frames_absorb`), and a program
that keeps files changes nothing else.

The working directory is no matter of output: only the move of an action that comes to its end
changes it (`cwd_conclude`).
-/

namespace LineShell

/-- What may differ between the files before and after writing to an output. -/
def Output.Frames (o : Output) (t t' : FileTree) : Prop :=
  match o with
  | .inherit => t' = t
  | .file d => t.SameExcept d.names? t'

theorem Output.Frames.refl (o : Output) (t : FileTree) : o.Frames t t := by
  cases o with
  | inherit => exact rfl
  | file d => exact FileTree.SameExcept.refl _ t

theorem Output.Frames.trans {o : Output} {t t' t'' : FileTree} (h : o.Frames t t')
    (h' : o.Frames t' t'') : o.Frames t t'' := by
  cases o with
  | inherit => exact Eq.trans h' h
  | file d => exact FileTree.SameExcept.trans h h'

namespace Session

/-! ## Files -/

theorem frames_emit (s : Session) (o : Output) (bs : Bytes) :
    o.Frames s.files (s.emit o bs).2.files := by
  cases o with
  | inherit => exact files_eq (s.store_writeOut bs)
  | file d => exact FileTree.sameExcept_write s.files d bs

theorem frames_emitLines (o : Output) (lines : List Text) (s : Session) :
    o.Frames s.files (s.emitLines o lines).2.files := by
  induction lines generalizing s with
  | nil => exact Output.Frames.refl o s.files
  | cons line lines ih =>
      rw [emitLines_cons]
      have hline := s.frames_emit o (Line.ofText line)
      split
      · exact hline
      · exact hline.trans (ih _)

theorem files_conclude (s : Session) (a : Action) : (s.conclude a).files = s.files :=
  files_eq (store_notes a.notes s)

theorem frames_perform {s s' : Session} {o : Output} {a : Action}
    {result : Except Diagnostic Outcome} (h : s.perform o a = (result, s')) :
    o.Frames s.files s'.files := by
  have hlines := frames_emitLines o a.lines s
  cases result with
  | ok outcome =>
      rw [(perform_ok h).2, files_conclude]
      exact hlines
  | error d =>
      rcases perform_error h with hs' | ⟨-, hs'⟩
      · rw [hs']
        exact hlines
      · rw [hs', files_conclude]
        exact hlines

theorem frames_absorb {e : Effect} (h : e.KeepsFiles) (s : Session) (o : Output) :
    o.Frames s.files (s.absorb o e).files := by
  rw [absorb, alter_of_keepsFiles h]
  cases o with
  | inherit => exact rfl
  | file d => exact FileTree.sameExcept_write s.files d e.out

/-! ## Working directory -/

theorem cwd_emit (s : Session) (o : Output) (bs : Bytes) : (s.emit o bs).2.cwd = s.cwd := by
  cases o with
  | inherit => exact cwd_eq (s.store_writeOut bs)
  | file d => rfl

theorem cwd_emitLines (o : Output) (lines : List Text) (s : Session) :
    (s.emitLines o lines).2.cwd = s.cwd := by
  induction lines generalizing s with
  | nil => rfl
  | cons line lines ih =>
      rw [emitLines_cons]
      split
      · exact s.cwd_emit o _
      · rw [ih, cwd_emit]

theorem cwd_conclude (s : Session) (a : Action) : (s.conclude a).cwd = a.moveTo.getD s.cwd := by
  have hnotes := cwd_eq (store_notes a.notes s)
  show a.moveTo.getD (a.notes.foldl note s).cwd = a.moveTo.getD s.cwd
  exact congrArg a.moveTo.getD hnotes

/-- An action leaves the working directory, or it comes to its end and moves. -/
theorem cwd_perform {s s' : Session} {o : Output} {a : Action}
    {result : Except Diagnostic Outcome} (h : s.perform o a = (result, s')) :
    s'.cwd = s.cwd ∨ a.moveTo = some s'.cwd ∧ result = a.result := by
  have hconclude : ∀ t : Session, t = (s.emitLines o a.lines).2.conclude a →
      t.cwd = s.cwd ∨ a.moveTo = some t.cwd := by
    rintro t rfl
    rw [cwd_conclude, cwd_emitLines]
    cases a.moveTo with
    | none => exact Or.inl rfl
    | some place => exact Or.inr rfl
  cases result with
  | ok outcome =>
      obtain ⟨hresult, hs'⟩ := perform_ok h
      exact (hconclude s' hs').imp_right fun hmove => ⟨hmove, hresult.symm⟩
  | error d =>
      rcases perform_error h with hs' | ⟨hresult, hs'⟩
      · rw [hs', cwd_emitLines]
        exact Or.inl rfl
      · exact (hconclude s' hs').imp_right fun hmove => ⟨hmove, hresult.symm⟩

theorem cwd_absorb {e : Effect} (h : e.KeepsFiles) (s : Session) (o : Output) :
    (s.absorb o e).cwd = s.cwd := by
  rw [absorb, alter_of_keepsFiles h]
  cases o <;> rfl

end Session

end LineShell
