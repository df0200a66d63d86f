import LineShell.Proofs.Shell.InStep

/-!
# Failing diagnostics and failing flushes

Two sessions are `Alike` if they show the same work and their streams for regular output take the
same bytes. Their streams for diagnostics may be any two streams, and flushing regular output may
fail in the one and not in the other. Alike sessions stay alike over every line, and its outcome is
the same in both (`executeLine_alike`).

So a flush that fails only adds its notice to the diagnostics: one before a program is started
(`reports_of_attempts`) and one at the end of the line (`reports_of_not_attempts`), around what is
reported in either case.
-/

namespace LineShell

/-! ## Streams but for their flushes -/

/-- The stream with flushes that never fail. -/
def Sink.steady (k : Sink) : Sink := { k with flushFault := fun _ => none }

theorem Sink.write_steady (k : Sink) (bs : Bytes) :
    k.steady.write bs = ((k.write bs).1, (k.write bs).2.steady) := by
  simp only [write, steady]
  cases k.room k.calls k.held.length with
  | none => rfl
  | some limit =>
      simp only
      split <;> rfl

/-- The streams take the same bytes in the same way, and differ in their flushes at most. -/
inductive Outlet.TakesAlike : Outlet → Outlet → Prop
  | process : TakesAlike .process .process
  | sink {k k' : Sink} (h : k.steady = k'.steady) : TakesAlike (.sink k) (.sink k')

theorem Outlet.TakesAlike.process_or_sink {o o' : Outlet} (h : o.TakesAlike o') :
    (o = .process ∧ o' = .process)
      ∨ ∃ k k', o = .sink k ∧ o' = .sink k' ∧ k.steady = k'.steady := by
  cases h with
  | process => exact Or.inl ⟨rfl, rfl⟩
  | sink hsteady => exact Or.inr ⟨_, _, rfl, rfl, hsteady⟩

namespace Session

/-! ## Alike sessions -/

structure Alike (s t : Session) : Prop where
  work : s.work = t.work
  out : s.out.TakesAlike t.out

variable {s t : Session}

theorem Alike.printed (h : s.Alike t) : s.printed = t.printed := by
  unfold Session.printed
  rcases h.out.process_or_sink with ⟨hs, ht⟩ | ⟨k, k', hs, ht, hsteady⟩
  · rw [hs, ht]
    exact stdout_of_work h.work
  · have hheld : k.steady.held = k'.steady.held := congrArg Sink.held hsteady
    rw [hs, ht]
    exact hheld

theorem out_syncOut_alike (h : s.out.TakesAlike t.out) :
    s.syncOut.2.out.TakesAlike t.syncOut.2.out := by
  unfold syncOut
  rcases h.process_or_sink with ⟨hs, ht⟩ | ⟨k, k', hs, ht, hsteady⟩
  · rw [hs, ht]
    exact h
  · rw [hs, ht]
    exact .sink (congrArg (fun k : Sink => { k with calls := k.calls + 1 }) hsteady)

theorem inStep_alike : InStep Alike where
  store h := store_of_work h.work
  record h e := ⟨work_record_congr h.work e, h.out⟩
  reportLeft {s t} h d := ⟨(s.work_report d).trans h.work, by rw [out_report]; exact h.out⟩
  reportRight {s t} h d := ⟨h.work.trans (t.work_report d).symm, by rw [out_report]; exact h.out⟩
  syncOut {s t} h :=
    ⟨s.work_syncOut.trans (h.work.trans t.work_syncOut.symm), out_syncOut_alike h.out⟩
  files h files := ⟨work_files_congr h.work files, h.out⟩
  conclude h a :=
    ⟨work_conclude_congr h.work a, by rw [out_conclude, out_conclude]; exact h.out⟩
  absorb h o e := ⟨work_absorb_congr h.work o e, by cases o <;> exact h.out⟩

/-! ## Actions -/

theorem writeOut_alike (h : s.Alike t) (bs : Bytes) :
    (s.writeOut bs).1 = (t.writeOut bs).1 ∧ (s.writeOut bs).2.Alike (t.writeOut bs).2 := by
  obtain ⟨hwork, hout⟩ := h
  unfold writeOut
  rcases hout.process_or_sink with ⟨hs, ht⟩ | ⟨k, k', hs, ht, hsteady⟩
  · rw [hs, ht]
    refine ⟨rfl, congrArg (fun w : Work => { w with stdout := w.stdout ++ bs }) hwork, ?_⟩
    rw [hs, ht] at hout
    exact hout
  · have hwrite : ((k.write bs).1, (k.write bs).2.steady)
        = ((k'.write bs).1, (k'.write bs).2.steady) := by
      rw [← Sink.write_steady, ← Sink.write_steady, hsteady]
    obtain ⟨hfault, hafter⟩ := Prod.mk.inj hwrite
    rw [hs, ht]
    exact ⟨hfault, hwork, .sink hafter⟩

theorem emitLines_alike (h : s.Alike t) (o : Output) (lines : List Text) :
    (s.emitLines o lines).1 = (t.emitLines o lines).1
      ∧ (s.emitLines o lines).2.Alike (t.emitLines o lines).2 := by
  cases o with
  | file d => exact inStep_alike.emitLines_file h d lines
  | inherit =>
      induction lines generalizing s t with
      | nil => exact ⟨rfl, h⟩
      | cons line lines ih =>
          obtain ⟨hfault, hline⟩ := writeOut_alike h (Line.ofText line)
          rw [emitLines_cons, emitLines_cons]
          simp only [emit, hfault]
          cases (t.writeOut (Line.ofText line)).1 with
          | some fault => exact ⟨rfl, hline⟩
          | none => exact ih hline

/-! ## Diagnostics -/

/-- The shell writes `before` to its stream for diagnostics, then a program writes `theirs` to the
process's, and then the shell writes `after` to its own. -/
def ErrGains (s s' : Session) (before theirs after : Bytes) : Prop :=
  ∃ t, s.ErrGrows t [] before ∧ t.ErrGrows s' theirs after

/-- What is reported of the next flush of regular output. -/
def flushNotice (s : Session) : Bytes :=
  match s.syncOut.1 with
  | none => []
  | some fault => Line.ofText ("write error: ".toList ++ fault.reason)

theorem flushNotice_of_out (h : s.out = t.out) : s.flushNotice = t.flushNotice := by
  rw [flushNotice, syncOut_fst_of_out h]
  rfl

theorem takesAll_of_errSide (h : s.err.TakesAll) (heq : t.errSide = s.errSide) :
    t.err.TakesAll := by
  have herr : t.err = s.err := congrArg Prod.fst heq
  rw [herr]
  exact h

theorem errGrows_flush (h : s.err.TakesAll) : s.ErrGrows s.flush [] s.flushNotice := by
  have hside := s.errSide_syncOut
  rw [flush_eq, flushNotice]
  cases s.syncOut.1 with
  | none => exact errGrows_of_eq hside
  | some fault => exact (errGrows_report (takesAll_of_errSide h hside) (.flush fault)).after hside

/-- What is reported of an action: the failure to write its lines, or else its notes and its own
failure. -/
def remarks (s : Session) (o : Output) (a : Action) : Bytes :=
  match (s.emitLines o a.lines).1 with
  | some fault => Line.ofText fault.text
  | none => a.notes.flatMap Line.ofText ++ match a.result with
    | .ok _ => []
    | .error d => Line.ofText d.text

theorem errGrows_settle (h : s.err.TakesAll) (o : Output) (a : Action) :
    s.ErrGrows (settle (s.perform o a)).2 [] (s.remarks o a) := by
  have hside := errSide_emitLines o a.lines s
  have hlines := takesAll_of_errSide h hside
  have hconclude := (errGrows_conclude hlines a).after hside
  rw [perform_eq, remarks]
  cases (s.emitLines o a.lines).1 with
  | some fault => exact (errGrows_report hlines (.output fault)).after hside
  | none =>
      cases a.result with
      | ok outcome =>
          simp only [List.append_nil]
          exact hconclude
      | error d =>
          refine hconclude.trans (errGrows_report ?_ d)
          exact hlines.of_faults (faults_conclude _ a)

theorem remarks_alike (h : s.Alike t) (o : Output) (a : Action) :
    s.remarks o a = t.remarks o a := by
  rw [remarks, remarks, (emitLines_alike h o a.lines).1]

theorem ErrGains.after {s s' s'' : Session} {before theirs after : Bytes}
    (h : s'.ErrGains s'' before theirs after) (heq : s'.errSide = s.errSide) :
    s.ErrGains s'' before theirs after := by
  obtain ⟨t, hbefore, hafter⟩ := h
  exact ⟨t, hbefore.after heq, hafter⟩

theorem ErrGains.grow {s s' s'' : Session} {before theirs after more : Bytes}
    (h : s.ErrGains s' before theirs after) (h' : s'.ErrGrows s'' [] more) :
    s.ErrGains s'' before theirs (after ++ more) := by
  obtain ⟨t, hbefore, hafter⟩ := h
  exact ⟨t, hbefore, hafter.trans h'⟩

end Session

namespace Shell

variable {sh : Shell} {s t : Session} {c : Command} {line : Text}

/-! ## Outcomes -/

theorem executeLine_alike (sh : Shell) (h : s.Alike t) (line : Text) :
    (sh.executeLine line s).1 = (sh.executeLine line t).1
      ∧ (sh.executeLine line s).2.Alike (sh.executeLine line t).2 := by
  by_cases hinvokes : sh.LineInvokes s line
  · obtain ⟨c, hline, b, o, files, hb⟩ := hinvokes
    have hopened := Session.inStep_alike.opened h line c files
    obtain ⟨hfault, hlines⟩ := Session.emitLines_alike hopened o (sh.action s c b files).lines
    exact executeLine_invokes_inStep Session.inStep_alike h hline hb hfault hlines
  · exact executeLine_inStep Session.inStep_alike h hinvokes

/-! ## Reports -/

theorem errGrows_takenUp_report (h : s.err.TakesAll) (c : Command) (d : Diagnostic) :
    s.ErrGrows ((s.takenUp c).report d) [] (Line.ofText d.text) := by
  have htakenUp : (s.takenUp c).err.TakesAll := h
  exact (Session.errGrows_report htakenUp d).after rfl

theorem errGrows_of_invokes {b : Builtin} {o : Output} {files : FileTree} (hs : s.err.TakesAll)
    (h : sh.Invokes s c b o files) :
    s.ErrGrows (sh.execute c s).2 []
      ((s.directed c files).remarks o (sh.action s c b files)) := by
  have hdirected : (s.directed c files).err.TakesAll := hs
  rw [execute_invokes h]
  exact (Session.errGrows_settle hdirected o _).after rfl

theorem reports_of_not_launchesSome (h : s.Alike t) (hs : s.err.TakesAll) (ht : t.err.TakesAll)
    (hnone : ¬ sh.LaunchesSome s c) :
    ∃ ours, s.ErrGrows (sh.execute c s).2 [] ours ∧ t.ErrGrows (sh.execute c t).2 [] ours := by
  have hstore := Session.store_of_work h.work
  by_cases hsome : sh.InvokesSome s c
  · obtain ⟨b, o, files, hinvokes⟩ := hsome
    have hdirected := Session.inStep_alike.directed h c files
    have hours := errGrows_of_invokes hs hinvokes
    have hours' := errGrows_of_invokes ht (hinvokes.of_store hstore)
    rw [← action_of_store hstore, ← Session.remarks_alike hdirected] at hours'
    exact ⟨_, hours, hours'⟩
  · obtain ⟨code, d, hdismissed⟩ := exists_dismissal hsome hnone
    rw [hdismissed s rfl, hdismissed t hstore]
    exact ⟨_, errGrows_takenUp_report hs c d, errGrows_takenUp_report ht c d⟩

theorem errGrows_launching (h : s.err.TakesAll) (c : Command) (path : Text) (files : FileTree) :
    s.ErrGrows (s.launching c path files) [] s.flushNotice := by
  have hdirected : (s.directed c files).err.TakesAll := h
  have hnotice : (s.directed c files).flushNotice = s.flushNotice :=
    Session.flushNotice_of_out rfl
  have hflush := (Session.errGrows_flush hdirected).after (s.errSide_record (.dispatched c))
  rw [hnotice] at hflush
  exact hflush.before (Session.errSide_record _ _)

/-- What a program writes to the process's standard error, if it starts. -/
def effectErr : Except IoError Effect → Bytes
  | .ok e => e.err
  | .error _ => []

/-- What the shell reports of a program that it could not start, or not wait for. -/
def startNotice (name : Text) : Except IoError Effect → Bytes
  | .ok e => Session.endNotice name e.ending
  | .error fault => Line.ofText (Diagnostic.start name fault).text

theorem errGains_of_launches {path : Text} {o : Output} {files : FileTree}
    (h : sh.Launches s c path o files) (hs : s.err.TakesAll) :
    s.ErrGains (sh.execute c s).2 s.flushNotice (effectErr (sh.attempt s c path o files))
      (startNotice c.name (sh.attempt s c path o files)) := by
  have hready := errGrows_launching hs c path files
  have htakes : (s.launching c path files).err.TakesAll :=
    hs.of_faults (s.faults_launching c path files)
  cases hstart : sh.attempt s c path o files with
  | error fault =>
      rw [execute_unstarted h hstart]
      exact ⟨_, hready, Session.errGrows_report htakes _⟩
  | ok e =>
      have hfinish := Session.errGrows_finish
        (htakes.of_faults (Session.faults_absorb _ o e)) c.name e.ending
      rw [execute_ended h hstart]
      exact ⟨_, hready, (Session.errGrows_absorb _ o e).trans hfinish⟩

/-! ## Lines -/

/-- The session after a line and before its last flush. -/
def unflushed (sh : Shell) (line : Text) (s : Session) : Session :=
  (sh.executeTokens (Token.tokenize line) (s.scanned line)).2

theorem executeLine_snd (sh : Shell) (line : Text) (s : Session) :
    (sh.executeLine line s).2 = (sh.unflushed line s).flush := rfl

theorem unflushed_eq (sh : Shell) (line : Text) (s : Session) :
    sh.unflushed line s = match Command.ofLine line with
      | .error e => (s.scanned line).report (.badLine e)
      | .ok none => s.scanned line
      | .ok (some c) => (sh.execute c (s.scanned line)).2 := by
  rw [unflushed, executeTokens, Command.ofLine]
  cases Command.ofTokens (Token.tokenize line) with
  | error e => rfl
  | ok found => cases found <;> rfl

/-- The line gets to the point where a program is started. -/
def Attempts (sh : Shell) (s : Session) (line : Text) : Prop :=
  ∃ c, Command.ofLine line = .ok (some c) ∧ sh.LaunchesSome s c

theorem faults_unflushed (sh : Shell) (line : Text) (s : Session) :
    (sh.unflushed line s).faults = s.faults := by
  have hline := faults_of_course (sh.executeLine_course s line)
  rw [executeLine_snd, Session.faults_flush] at hline
  exact hline

theorem errGrows_executeLine (hs : s.err.TakesAll) (line : Text) :
    (sh.unflushed line s).ErrGrows (sh.executeLine line s).2 []
      (sh.unflushed line s).flushNotice :=
  Session.errGrows_flush (hs.of_faults (sh.faults_unflushed line s))

/-- Without a program, both runs report the same, and then each the failure of its own last
flush. -/
theorem reports_of_not_attempts (h : s.Alike t) (hs : s.err.TakesAll) (ht : t.err.TakesAll)
    (hnone : ¬ sh.Attempts s line) : ∃ ours,
    s.ErrGrows (sh.executeLine line s).2 [] (ours ++ (sh.unflushed line s).flushNotice)
      ∧ t.ErrGrows (sh.executeLine line t).2 [] (ours ++ (sh.unflushed line t).flushNotice) := by
  have hours : ∃ ours, s.ErrGrows (sh.unflushed line s) [] ours
      ∧ t.ErrGrows (sh.unflushed line t) [] ours := by
    rw [unflushed_eq, unflushed_eq]
    have hs' : (s.scanned line).err.TakesAll := hs
    have ht' : (t.scanned line).err.TakesAll := ht
    cases hline : Command.ofLine line with
    | error e =>
        exact ⟨_, (Session.errGrows_report hs' (.badLine e)).after rfl,
          (Session.errGrows_report ht' (.badLine e)).after rfl⟩
    | ok found =>
        cases found with
        | none => exact ⟨[], Session.errGrows_of_eq rfl, Session.errGrows_of_eq rfl⟩
        | some c =>
            have hscanned : (s.scanned line).Alike (t.scanned line) :=
              Session.inStep_alike.record h _
            have hnone' : ¬ sh.LaunchesSome (s.scanned line) c := by
              rintro ⟨path, o, files, hlaunches⟩
              exact hnone ⟨c, hline, path, o, files, hlaunches.builtin, hlaunches.program,
                hlaunches.opened⟩
            obtain ⟨ours, hours, hours'⟩ := reports_of_not_launchesSome hscanned hs' ht' hnone'
            exact ⟨ours, hours.after rfl, hours'.after rfl⟩
  obtain ⟨ours, hours, hours'⟩ := hours
  exact ⟨ours, hours.trans (errGrows_executeLine hs line),
    hours'.trans (errGrows_executeLine ht line)⟩

theorem errGains_of_attempts {path : Text} {o : Output} {files : FileTree}
    (hline : Command.ofLine line = .ok (some c)) (h : sh.Launches s c path o files)
    (hs : s.err.TakesAll) :
    s.ErrGains (sh.executeLine line s).2 s.flushNotice (effectErr (sh.attempt s c path o files))
      (startNotice c.name (sh.attempt s c path o files)
        ++ (sh.unflushed line s).flushNotice) := by
  have hgains := errGains_of_launches (h.scanned line) (s := s.scanned line) hs
  have hunflushed : sh.unflushed line s = (sh.execute c (s.scanned line)).2 := by
    rw [unflushed_eq, hline]
  have hnotice : (s.scanned line).flushNotice = s.flushNotice := Session.flushNotice_of_out rfl
  have hattempt : sh.attempt (s.scanned line) c path o files = sh.attempt s c path o files :=
    attempt_of_store rfl path o files
  rw [← hunflushed, hnotice, hattempt] at hgains
  exact (hgains.after (s.errSide_record _)).grow (errGrows_executeLine hs line)

/-- With a program, each run reports the failure of its flush before the start as well, ahead of
all else. -/
theorem reports_of_attempts (h : s.Alike t) (hs : s.err.TakesAll) (ht : t.err.TakesAll)
    (hsome : sh.Attempts s line) : ∃ theirs ours,
    s.ErrGains (sh.executeLine line s).2 s.flushNotice theirs
        (ours ++ (sh.unflushed line s).flushNotice)
      ∧ t.ErrGains (sh.executeLine line t).2 t.flushNotice theirs
        (ours ++ (sh.unflushed line t).flushNotice) := by
  obtain ⟨c, hline, path, o, files, hlaunches⟩ := hsome
  have hstore := Session.store_of_work h.work
  have hgains := errGains_of_attempts hline hlaunches hs
  have hgains' := errGains_of_attempts hline (hlaunches.of_store hstore) ht
  rw [← attempt_of_store hstore] at hgains'
  exact ⟨_, _, hgains, hgains'⟩

/-! ## Runs -/

/-- What becomes of a line in two sessions that differ in their streams for diagnostics and in the
flushes of their regular output. -/
structure SameButReports (sh : Shell) (s t : Session) (line : Text) : Prop where
  outcome : (sh.executeLine line s).1 = (sh.executeLine line t).1
  printed : (sh.executeLine line s).2.printed = (sh.executeLine line t).2.printed
  work : (sh.executeLine line s).2.work = (sh.executeLine line t).2.work
  starts : ∀ e, sh.Starts s line e ↔ sh.Starts t line e
  attempts : sh.Attempts s line ↔ sh.Attempts t line
  /-- Each run adds its own flush notices to the same diagnostics. -/
  attempting : s.err.TakesAll → t.err.TakesAll → sh.Attempts s line → ∃ theirs ours,
    s.ErrGains (sh.executeLine line s).2 s.flushNotice theirs
        (ours ++ (sh.unflushed line s).flushNotice)
      ∧ t.ErrGains (sh.executeLine line t).2 t.flushNotice theirs
        (ours ++ (sh.unflushed line t).flushNotice)
  otherwise : s.err.TakesAll → t.err.TakesAll → ¬ sh.Attempts s line → ∃ ours,
    s.ErrGrows (sh.executeLine line s).2 [] (ours ++ (sh.unflushed line s).flushNotice)
      ∧ t.ErrGrows (sh.executeLine line t).2 [] (ours ++ (sh.unflushed line t).flushNotice)

theorem Attempts.of_store (hstore : s.store = t.store) (h : sh.Attempts s line) :
    sh.Attempts t line := by
  obtain ⟨c, hline, path, o, files, hlaunches⟩ := h
  exact ⟨c, hline, path, o, files, hlaunches.of_store hstore⟩

theorem sameButReports (sh : Shell) (h : s.Alike t) (line : Text) :
    sh.SameButReports s t line where
  outcome := (executeLine_alike sh h line).1
  printed := (executeLine_alike sh h line).2.printed
  work := (executeLine_alike sh h line).2.work
  starts _ := starts_iff_of_store (Session.store_of_work h.work)
  attempts :=
    ⟨.of_store (Session.store_of_work h.work), .of_store (Session.store_of_work h.work).symm⟩
  attempting := reports_of_attempts h
  otherwise := reports_of_not_attempts h

theorem run_alike (sh : Shell) (h : s.Alike t) (lines : List Text) :
    (sh.run s lines).Alike (sh.run t lines) :=
  run_related (R := Session.Alike) (fun line h => (executeLine_alike sh h line).2) h lines

/-- Over a whole run, what fails in writing diagnostics and in flushing regular output changes
nothing but the diagnostics: before and after every line both runs have done the same work, and a
failing flush adds its notices around what is reported anyway. -/
theorem failing_reports_only_report (sh : Shell) (h : s.Alike t) (lines : List Text) :
    (sh.run s lines).Alike (sh.run t lines)
      ∧ ∀ line, sh.SameButReports (sh.run s lines) (sh.run t lines) line :=
  ⟨run_alike sh h lines, fun line => sameButReports sh (run_alike sh h lines) line⟩

/-- A session with a program `/p`, whose stream for regular output flushes as given. -/
def flushing (flushFault : Nat → Option IoError) : Session :=
  { files := ⟨[(.ofText ['p'], .file ⟨.image 0, 0o755⟩)]⟩
    out := .sink { flushFault := flushFault }
    err := .sink {} }

/-- After an unknown command a program is started. Where flushes fail, a notice of that comes before
its start and another at the end of the line, and where they do not fail, none. -/
theorem failing_reports_only_report_started :
    (flushing fun _ => some (.custom ['f'])).Alike (flushing fun _ => none)
      ∧ Attempts {} (run {} (flushing fun _ => some (.custom ['f'])) [['a']]) ['/', 'p']
      ∧ ∃ theirs ours,
        (run {} (flushing fun _ => some (.custom ['f'])) [['a']]).ErrGains
            (executeLine {} ['/', 'p'] (run {} (flushing fun _ => some (.custom ['f'])) [['a']])).2
            (Line.ofText "write error: f".toList) theirs
            (ours ++ Line.ofText "write error: f".toList)
          ∧ (run {} (flushing fun _ => none) [['a']]).ErrGains
            (executeLine {} ['/', 'p'] (run {} (flushing fun _ => none) [['a']])).2
            [] theirs (ours ++ []) := by
  have halike : (flushing fun _ => some (.custom ['f'])).Alike (flushing fun _ => none) :=
    { work := rfl, out := .sink rfl }
  have hattempts :
      Attempts {} (run {} (flushing fun _ => some (.custom ['f'])) [['a']]) ['/', 'p'] :=
    ⟨⟨['/', 'p'], [], none⟩, rfl, ['/', 'p'], _, _, rfl, by decide +kernel, rfl⟩
  have htakes : ∀ flushFault, (flushing flushFault).err.TakesAll := by
    rintro flushFault f ⟨⟩ calls held
    rfl
  have htakes' : ∀ flushFault, (run {} (flushing flushFault) [['a']]).err.TakesAll :=
    fun flushFault => (htakes flushFault).of_faults
      (faults_of_course (executeLine_course {} (flushing flushFault) ['a']))
  have hrun := failing_reports_only_report {} halike [['a']]
  exact ⟨halike, hattempts, (hrun.2 ['/', 'p']).attempting (htakes' _) (htakes' _) hattempts⟩

end Shell
end LineShell
