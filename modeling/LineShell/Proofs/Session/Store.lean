import LineShell.Session

/-!
# What the streams leave alone

Writing, flushing and reporting only touch the streams of a session and its journal. What they
leave alone is its `store`: the files, the working directory and the standard input.
-/

namespace LineShell

namespace Session

/-! ## Operations by their results

What the operations that go on after a result do, without taking the result apart. -/

theorem flush_eq (s : Session) :
    s.flush = match s.syncOut.1 with
      | none => s.syncOut.2
      | some fault => s.syncOut.2.report (.flush fault) := by
  unfold flush
  split <;> next hrun => rw [hrun]

theorem emitLines_cons (s : Session) (o : Output) (line : Text) (lines : List Text) :
    s.emitLines o (line :: lines) = match (s.emit o (Line.ofText line)).1 with
      | some fault => (some fault, (s.emit o (Line.ofText line)).2)
      | none => (s.emit o (Line.ofText line)).2.emitLines o lines := by
  rw [emitLines]
  split <;> next hrun => rw [hrun]

/-- The session after an action whose lines are written. -/
def conclude (s : Session) (a : Action) : Session :=
  { a.notes.foldl note s with cwd := a.moveTo.getD (a.notes.foldl note s).cwd }

theorem perform_eq (s : Session) (o : Output) (a : Action) :
    s.perform o a = match (s.emitLines o a.lines).1 with
      | some fault => (.error (.output fault), (s.emitLines o a.lines).2)
      | none => (a.result, (s.emitLines o a.lines).2.conclude a) := by
  unfold perform
  split
  · next hrun => rw [hrun]
  · next hrun =>
      rw [hrun]
      rfl

theorem perform_ok {s s' : Session} {o : Output} {a : Action} {outcome : Outcome}
    (h : s.perform o a = (.ok outcome, s')) :
    a.result = .ok outcome ∧ s' = (s.emitLines o a.lines).2.conclude a := by
  rw [perform_eq] at h
  split at h
  · cases h
  · exact ⟨congrArg Prod.fst h, (congrArg Prod.snd h).symm⟩

/-- An action fails at one of its lines or by its result. -/
theorem perform_error {s s' : Session} {o : Output} {a : Action} {d : Diagnostic}
    (h : s.perform o a = (.error d, s')) :
    s' = (s.emitLines o a.lines).2
      ∨ a.result = .error d ∧ s' = (s.emitLines o a.lines).2.conclude a := by
  rw [perform_eq] at h
  split at h
  · exact Or.inl (congrArg Prod.snd h).symm
  · exact Or.inr ⟨congrArg Prod.fst h, (congrArg Prod.snd h).symm⟩

end Session

/-! ## The store of a session -/

structure Store where
  files : FileTree
  cwd : Place
  input : Input

namespace Session

def store (s : Session) : Store := ⟨s.files, s.cwd, s.input⟩

theorem files_eq {s : Session} {t : Store} (h : s.store = t) : s.files = t.files :=
  congrArg Store.files h

theorem cwd_eq {s : Session} {t : Store} (h : s.store = t) : s.cwd = t.cwd :=
  congrArg Store.cwd h

theorem input_eq {s : Session} {t : Store} (h : s.store = t) : s.input = t.input :=
  congrArg Store.input h

theorem store_record (s : Session) (e : Event) : (s.record e).store = s.store := rfl

theorem store_writeOut (s : Session) (bs : Bytes) : (s.writeOut bs).2.store = s.store := by
  unfold writeOut; split <;> rfl

theorem store_writeErr (s : Session) (bs : Bytes) : (s.writeErr bs).2.store = s.store := by
  unfold writeErr; split <;> rfl

theorem store_syncOut (s : Session) : s.syncOut.2.store = s.store := by
  unfold syncOut; split <;> rfl

theorem store_syncErr (s : Session) : s.syncErr.2.store = s.store := by
  unfold syncErr; split <;> rfl

theorem store_note (s : Session) (line : Text) : (s.note line).store = s.store :=
  s.store_writeErr (Line.ofText line)

theorem store_notes (lines : List Text) (s : Session) :
    (lines.foldl note s).store = s.store := by
  induction lines generalizing s with
  | nil => rfl
  | cons line lines ih => rw [List.foldl_cons, ih, store_note]

theorem store_report (s : Session) (d : Diagnostic) : (s.report d).store = s.store := by
  rw [report, store_syncErr, store_note, store_record]

theorem store_finish (s : Session) (name : Text) (ending : Option Ending) :
    (s.finish name ending).store = s.store := by
  cases ending with
  | none => exact s.store_report _
  | some ending => rfl

theorem store_flush (s : Session) : s.flush.store = s.store := by
  rw [flush_eq]
  split
  · exact s.store_syncOut
  · rw [store_report, store_syncOut]

end Session

end LineShell
