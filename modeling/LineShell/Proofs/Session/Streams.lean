import LineShell.Proofs.FileTree.Change
import LineShell.Proofs.Session.Diagnostics

/-!
# The two streams of a shell

What the shell's own stream for regular output holds (`Session.printed`), and how the two streams
move apart from each other: diagnostics do not touch the stream for regular output
(`outSide_report`), and what they do to their own stream depends on that stream alone
(`errSide_report_congr`).

A stream that takes everything gets all lines that are printed, in their order
(`printed_emitLines`). Lines that go to a file do not touch it (`outSide_emitLines_file`), and the
file gets them all (`bytes?_emitLines`).
-/

namespace LineShell
namespace Session

/-! ## Regular output -/

/-- What the shell's own stream for regular output holds. -/
def printed (s : Session) : Bytes :=
  match s.out with
  | .process => s.stdout
  | .sink k => k.held

/-- The shell's stream for regular output, with what reached the process's. -/
def outSide (s : Session) : Outlet × Bytes := (s.out, s.stdout)

theorem printed_of_outSide {s s' : Session} (h : s'.outSide = s.outSide) :
    s'.printed = s.printed := by
  have hout : s'.out = s.out := congrArg Prod.fst h
  have hstdout : s'.stdout = s.stdout := congrArg Prod.snd h
  rw [printed, printed, hout, hstdout]

theorem takesAll_of_faults {s s' : Session} (h : s.out.TakesAll) (hfaults : s'.faults = s.faults) :
    s'.out.TakesAll := by
  have hout : s'.out.faults = s.out.faults := congrArg Prod.fst hfaults
  rw [Outlet.TakesAll, hout]
  exact h

theorem syncOut_fst_of_out {s t : Session} (h : s.out = t.out) : s.syncOut.1 = t.syncOut.1 := by
  unfold syncOut
  rw [h]
  cases t.out <;> rfl

theorem writeOut_of_takesAll {s : Session} (h : s.out.TakesAll) (bs : Bytes) :
    (s.writeOut bs).1 = none ∧ (s.writeOut bs).2.printed = s.printed ++ bs := by
  unfold writeOut printed
  cases hs : s.out with
  | process => exact ⟨rfl, rfl⟩
  | sink k =>
      have hroom : k.room k.calls k.held.length = none := by
        rw [hs] at h
        exact h _ rfl k.calls k.held.length
      simp [Sink.write, hroom]

theorem printed_emitLines {s : Session} (h : s.out.TakesAll) (lines : List Text) :
    (s.emitLines .inherit lines).1 = none
      ∧ (s.emitLines .inherit lines).2.printed = s.printed ++ lines.flatMap Line.ofText := by
  induction lines generalizing s with
  | nil => exact ⟨rfl, (List.append_nil _).symm⟩
  | cons line lines ih =>
      obtain ⟨hnone, hline⟩ := writeOut_of_takesAll h (Line.ofText line)
      obtain ⟨hnone', hlines⟩ := ih (takesAll_of_faults h (s.faults_writeOut (Line.ofText line)))
      have hemit : (s.emit .inherit (Line.ofText line)).1 = none := hnone
      rw [emitLines_cons, hemit]
      refine ⟨hnone', hlines.trans ?_⟩
      rw [hline, List.flatMap_cons, List.append_assoc]

theorem outSide_writeErr (s : Session) (bs : Bytes) : (s.writeErr bs).2.outSide = s.outSide := by
  unfold writeErr; split <;> rfl

theorem outSide_syncErr (s : Session) : s.syncErr.2.outSide = s.outSide := by
  unfold syncErr; split <;> rfl

theorem outSide_report (s : Session) (d : Diagnostic) : (s.report d).outSide = s.outSide := by
  rw [report, outSide_syncErr]
  exact outSide_writeErr _ _

theorem outSide_conclude (s : Session) (a : Action) : (s.conclude a).outSide = s.outSide := by
  have hnotes : (a.notes.foldl note s).outSide = s.outSide := by
    induction a.notes generalizing s with
    | nil => rfl
    | cons line lines ih => exact (ih (s.note line)).trans (s.outSide_writeErr _)
  exact hnotes

theorem out_report (s : Session) (d : Diagnostic) : (s.report d).out = s.out :=
  congrArg Prod.fst (s.outSide_report d)

theorem out_conclude (s : Session) (a : Action) : (s.conclude a).out = s.out :=
  congrArg Prod.fst (s.outSide_conclude a)

theorem outSide_emitLines_file (d : Destination) (lines : List Text) (s : Session) :
    (s.emitLines (.file d) lines).2.outSide = s.outSide := by
  induction lines generalizing s with
  | nil => rfl
  | cons line lines ih =>
      rw [emitLines_cons]
      split
      · rfl
      · rw [ih]
        rfl

theorem perform_of_takesAll {s : Session} (h : s.out.TakesAll) (a : Action) :
    s.perform .inherit a = (a.result, (s.emitLines .inherit a.lines).2.conclude a) := by
  rw [perform_eq, (printed_emitLines h a.lines).1]

/-! ## Files -/

theorem bytes?_emitLines {s : Session} {names : Names} {data : Bytes}
    (h : s.files.bytes? names = some data) (lines : List Text) :
    (s.emitLines (.file (.file names)) lines).1 = none
      ∧ (s.emitLines (.file (.file names)) lines).2.files.bytes? names
        = some (data ++ lines.flatMap Line.ofText) := by
  induction lines generalizing s data with
  | nil => exact ⟨rfl, by rw [List.flatMap_nil, List.append_nil]; exact h⟩
  | cons line lines ih =>
      obtain ⟨hnone, hline⟩ := FileTree.bytes?_write h (Line.ofText line)
      have hemit : (s.emit (.file (.file names)) (Line.ofText line)).1 = none := hnone
      obtain ⟨hnone', hlines⟩ := ih
        (s := (s.emit (.file (.file names)) (Line.ofText line)).2) hline
      rw [emitLines_cons, hemit, List.flatMap_cons, ← List.append_assoc]
      exact ⟨hnone', hlines⟩

theorem perform_of_bytes? {s : Session} {names : Names} {data : Bytes}
    (h : s.files.bytes? names = some data) (a : Action) :
    s.perform (.file (.file names)) a
      = (a.result, (s.emitLines (.file (.file names)) a.lines).2.conclude a) := by
  rw [perform_eq, (bytes?_emitLines h a.lines).1]

/-! ## Diagnostics -/

theorem errSide_writeErr_congr {s t : Session} (h : s.errSide = t.errSide) (bs : Bytes) :
    (s.writeErr bs).2.errSide = (t.writeErr bs).2.errSide := by
  have herr : s.err = t.err := congrArg Prod.fst h
  have hstderr : s.stderr = t.stderr := congrArg Prod.snd h
  unfold writeErr
  rw [herr]
  cases t.err with
  | process => simp only [errSide, hstderr]
  | sink k => exact Prod.ext rfl hstderr

theorem errSide_note_congr {s t : Session} (h : s.errSide = t.errSide) (line : Text) :
    (s.note line).errSide = (t.note line).errSide :=
  errSide_writeErr_congr h (Line.ofText line)

theorem errSide_syncErr_congr {s t : Session} (h : s.errSide = t.errSide) :
    s.syncErr.2.errSide = t.syncErr.2.errSide := by
  have herr : s.err = t.err := congrArg Prod.fst h
  have hstderr : s.stderr = t.stderr := congrArg Prod.snd h
  unfold syncErr
  rw [herr]
  cases t.err with
  | process => exact h
  | sink k => exact Prod.ext rfl hstderr

theorem errSide_report_congr {s t : Session} (h : s.errSide = t.errSide) (d : Diagnostic) :
    (s.report d).errSide = (t.report d).errSide := by
  have hrecord : (s.record (.reported d)).errSide = (t.record (.reported d)).errSide := h
  exact errSide_syncErr_congr (errSide_note_congr hrecord d.text)

theorem errSide_conclude_congr {s t : Session} (h : s.errSide = t.errSide) (a : Action) :
    (s.conclude a).errSide = (t.conclude a).errSide := by
  have hnotes : (a.notes.foldl note s).errSide = (a.notes.foldl note t).errSide := by
    induction a.notes generalizing s t with
    | nil => exact h
    | cons line lines ih => exact ih (errSide_note_congr h line)
  exact hnotes

/-! ## Journal -/

theorem actionSteps_journal : ActionSteps fun s s' => s'.journal = s.journal where
  refl _ := rfl
  trans h h' := h'.trans h
  writeOut s bs := by unfold writeOut; split <;> rfl
  writeErr s bs := by unfold writeErr; split <;> rfl
  write _ _ _ := rfl
  move _ _ := rfl

theorem journal_report (s : Session) (d : Diagnostic) :
    (s.report d).journal = s.journal ++ [.reported d] := by
  have hsync : ∀ t : Session, t.syncErr.2.journal = t.journal := by
    intro t
    unfold syncErr
    split <;> rfl
  rw [report, hsync]
  exact actionSteps_journal.writeErr (s.record (.reported d)) _

end Session
end LineShell
