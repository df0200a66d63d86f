import LineShell.Proofs.Session.Streams

/-!
# The work that a session shows

What a shell did, as opposed to what it had to say about it: the store of the session, what has
reached the process's standard output, and the journal without its reports. Reports and flushes
leave the work as it is (`work_report`, `work_syncOut`), whether they succeed or not, and what
enters the journal otherwise, and what comes from a program, does the same to equal works
(`work_record_congr`, `work_absorb_congr`).

What programs have written to the process's standard error can be told only if the shell's own
diagnostics do not go there as well; then it is `heard`.
-/

namespace LineShell

def Event.isReport : Event → Bool
  | .reported _ => true
  | _ => false

/-- What there is to see of the work of a shell. -/
structure Work where
  store : Store
  stdout : Bytes
  /-- The lines, the commands, the programs with their arguments and their endings. -/
  deeds : List Event

namespace Session

def deeds (s : Session) : List Event := s.journal.filter fun e => !e.isReport

def work (s : Session) : Work := ⟨s.store, s.stdout, s.deeds⟩

variable {s t : Session}

theorem store_of_work (h : s.work = t.work) : s.store = t.store := congrArg Work.store h

theorem stdout_of_work (h : s.work = t.work) : s.stdout = t.stdout := congrArg Work.stdout h

theorem work_eq (hstore : s.store = t.store) (hstdout : s.stdout = t.stdout)
    (hdeeds : s.deeds = t.deeds) : s.work = t.work := by
  rw [work, work, hstore, hstdout, hdeeds]

theorem deeds_of_journal (h : s.journal = t.journal) : s.deeds = t.deeds := by
  rw [deeds, deeds, h]

/-! ## What leaves the work as it is -/

theorem work_writeErr (s : Session) (bs : Bytes) : (s.writeErr bs).2.work = s.work :=
  work_eq (s.store_writeErr bs) (congrArg Prod.snd (s.outSide_writeErr bs))
    (deeds_of_journal (actionSteps_journal.writeErr s bs))

theorem work_notes (lines : List Text) (s : Session) : (lines.foldl note s).work = s.work := by
  induction lines generalizing s with
  | nil => rfl
  | cons line lines ih => exact (ih (s.note line)).trans (s.work_writeErr (Line.ofText line))

theorem work_syncOut (s : Session) : s.syncOut.2.work = s.work := by
  unfold syncOut; split <;> rfl

theorem work_report (s : Session) (d : Diagnostic) : (s.report d).work = s.work := by
  refine work_eq (s.store_report d) (congrArg Prod.snd (s.outSide_report d)) ?_
  rw [deeds, journal_report, List.filter_append]
  exact List.append_nil _

/-! ## What does the same to equal works -/

theorem work_record_congr (h : s.work = t.work) (e : Event) :
    (s.record e).work = (t.record e).work := by
  have hrecord : ∀ u : Session, (u.record e).work
      = { u.work with deeds := u.work.deeds ++ [e].filter fun e => !e.isReport } := by
    intro u
    have hdeeds : (u.record e).deeds = u.deeds ++ [e].filter fun e => !e.isReport :=
      List.filter_append _ _
    rw [work, hdeeds]
    rfl
  rw [hrecord, hrecord, h]

theorem work_files_congr (h : s.work = t.work) (files : FileTree) :
    ({ s with files := files } : Session).work = ({ t with files := files } : Session).work :=
  congrArg (fun w : Work => { w with store := { w.store with files := files } }) h

theorem work_conclude_congr (h : s.work = t.work) (a : Action) :
    (s.conclude a).work = (t.conclude a).work := by
  have hnotes : (a.notes.foldl note s).work = (a.notes.foldl note t).work := by
    rw [work_notes, work_notes, h]
  exact congrArg (fun w : Work =>
    { w with store := { w.store with cwd := a.moveTo.getD w.store.cwd } }) hnotes

theorem work_absorb_congr (h : s.work = t.work) (o : Output) (e : Effect) :
    (s.absorb o e).work = (t.absorb o e).work := by
  cases o with
  | inherit =>
      exact congrArg (fun w : Work =>
        { w with
          store := ⟨e.changes w.store.files, e.moves w.store.cwd, w.store.input.drop e.taken⟩
          stdout := w.stdout ++ e.out }) h
  | file d =>
      exact congrArg (fun w : Work =>
        { w with
          store := ⟨e.changes (w.store.files.write d e.out).2, e.moves w.store.cwd,
            w.store.input.drop e.taken⟩ }) h

/-! ## Diagnostics of programs -/

/-- What has reached the process's standard error, if that is not the shell's own stream for
diagnostics. -/
def heard (s : Session) : Option Bytes :=
  match s.err with
  | .process => none
  | .sink _ => some s.stderr

theorem heard_of_errSide (h : s.errSide = t.errSide) : s.heard = t.heard := by
  have herr : s.err = t.err := congrArg Prod.fst h
  have hstderr : s.stderr = t.stderr := congrArg Prod.snd h
  rw [heard, heard, herr, hstderr]

theorem heard_writeErr (s : Session) (bs : Bytes) : (s.writeErr bs).2.heard = s.heard := by
  unfold writeErr heard
  cases s.err <;> simp

theorem heard_syncErr (s : Session) : s.syncErr.2.heard = s.heard := by
  unfold syncErr heard
  cases hs : s.err <;> simp [hs]

theorem heard_report (s : Session) (d : Diagnostic) : (s.report d).heard = s.heard := by
  rw [report, heard_syncErr]
  exact heard_writeErr _ _

theorem heard_conclude (s : Session) (a : Action) : (s.conclude a).heard = s.heard := by
  have hnotes : (a.notes.foldl note s).heard = s.heard := by
    induction a.notes generalizing s with
    | nil => rfl
    | cons line lines ih => exact (ih (s.note line)).trans (s.heard_writeErr _)
  exact hnotes

theorem heard_absorb_congr (h : s.heard = t.heard) (o : Output) (e : Effect) :
    (s.absorb o e).heard = (t.absorb o e).heard := by
  have habsorb : ∀ u : Session, (u.absorb o e).heard = u.heard.map (· ++ e.err) := by
    intro u
    cases o <;> cases hu : u.err <;> simp [absorb, relay, alter, heard, hu]
  rw [habsorb, habsorb, h]

end Session
end LineShell
