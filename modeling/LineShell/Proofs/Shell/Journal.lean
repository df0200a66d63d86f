import LineShell.Proofs.Session.Streams
import LineShell.Proofs.Shell.Execute

/-!
# What the journal says of a command

Executing a command enters that it was taken up and then, in their order, what was reported and
which program was started and how it ended (`Shell.Enters`). There is one lemma for each course that
a command can take. What else the journal tells, such as which programs were started, is read off
these events.
-/

namespace LineShell

namespace Session

variable {s : Session}

/-- What the next flush of regular output enters: its failure, if it fails. -/
def flushEvents (s : Session) : List Event :=
  match s.syncOut.1 with
  | none => []
  | some fault => [.reported (.flush fault)]

theorem journal_flush (s : Session) : s.flush.journal = s.journal ++ s.flushEvents := by
  have hsync : s.syncOut.2.journal = s.journal := by
    unfold syncOut
    split <;> rfl
  rw [flush_eq, flushEvents]
  cases s.syncOut.1 with
  | none => exact hsync.trans (List.append_nil _).symm
  | some fault => exact (journal_report _ _).trans (congrArg (· ++ [_]) hsync)

theorem mem_flushEvents {event : Event} (h : event ∈ s.flushEvents) :
    ∃ fault, s.syncOut.1 = some fault ∧ event = .reported (.flush fault) := by
  unfold flushEvents at h
  split at h
  · exact absurd h List.not_mem_nil
  · next fault hsync => exact ⟨fault, hsync, List.mem_singleton.mp h⟩

theorem journal_launching (s : Session) (c : Command) (path : Text) (files : FileTree) :
    (s.launching c path files).journal
      = s.journal ++ .dispatched c :: (s.flushEvents ++ [.starting path (c.name :: c.args)]) := by
  have hsync : (s.directed c files).syncOut.1 = s.syncOut.1 := syncOut_fst_of_out rfl
  have hevents : (s.directed c files).flushEvents = s.flushEvents := by
    rw [flushEvents, hsync]
    rfl
  have hflush := journal_flush (s.directed c files)
  rw [hevents] at hflush
  have hdirected : (s.directed c files).journal = s.journal ++ [.dispatched c] := rfl
  rw [launching, record, hflush, hdirected]
  simp only [List.append_assoc, List.cons_append, List.nil_append]

end Session

namespace Shell

variable {sh : Shell} {s : Session} {c : Command}

/-- Executing the command enters that it was taken up, and then the events. -/
def Enters (sh : Shell) (s : Session) (c : Command) (events : List Event) : Prop :=
  (sh.execute c s).2.journal = s.journal ++ .dispatched c :: events

theorem journal_takenUp_report (s : Session) (c : Command) (d : Diagnostic) :
    ((s.takenUp c).report d).journal = s.journal ++ [.dispatched c, .reported d] :=
  (Session.journal_report _ d).trans (List.append_assoc _ _ _)

theorem enters_of_unknown (hbuiltin : sh.builtins.get? c.name = none)
    (hprogram : sh.env.locate s.files s.cwd c.name = none) :
    sh.Enters s c [.reported (.notFound c.name)] := by
  rw [Enters, execute_unknown hbuiltin hprogram]
  exact journal_takenUp_report s c _

theorem enters_of_unopened {d : Diagnostic} (hknows : sh.Knows s c.name)
    (hopen : s.files.openTarget s.cwd c.target = .error d) : sh.Enters s c [.reported d] := by
  rw [Enters, execute_unopened hknows hopen]
  exact journal_takenUp_report s c d

/-- What a builtin's result enters. -/
def resultEvents : Except Diagnostic Outcome → List Event
  | .ok _ => []
  | .error d => [.reported d]

theorem enters_of_invokes {b : Builtin} {o : Output} {files : FileTree}
    (h : sh.Invokes s c b o files) :
    sh.Enters s c (resultEvents ((s.directed c files).perform o (sh.action s c b files)).1) := by
  have hperform := Session.actionSteps_journal.perform (s.directed c files) o
    (sh.action s c b files)
  rw [Enters, execute_invokes h]
  cases hrun : (s.directed c files).perform o (sh.action s c b files) with
  | mk result s' =>
      rw [hrun] at hperform
      cases result with
      | ok outcome => exact hperform
      | error d =>
          have hreport := (s'.journal_report d).trans (congrArg (· ++ [.reported d]) hperform)
          exact hreport.trans (List.append_assoc _ _ _)

/-- What the start of a program enters once it is attempted. -/
def endEvents (name : Text) : Except IoError Effect → List Event
  | .ok e => match e.ending with
    | some ending => [.finished name ending.status]
    | none => [.reported (.wait name)]
  | .error fault => [.reported (.start name fault)]

theorem enters_of_launches {path : Text} {o : Output} {files : FileTree}
    (h : sh.Launches s c path o files) :
    sh.Enters s c (s.flushEvents ++ .starting path (c.name :: c.args)
      :: endEvents c.name (sh.attempt s c path o files)) := by
  have hlaunching := s.journal_launching c path files
  have hends : (sh.execute c s).2.journal = (s.launching c path files).journal
      ++ endEvents c.name (sh.attempt s c path o files) := by
    cases hattempt : sh.attempt s c path o files with
    | error fault =>
        rw [execute_unstarted h hattempt]
        exact Session.journal_report _ _
    | ok e =>
        have habsorb : ((s.launching c path files).absorb o e).journal
            = (s.launching c path files).journal := by
          cases o <;> rfl
        rw [execute_ended h hattempt, ← habsorb]
        simp only [endEvents]
        cases e.ending with
        | none => exact Session.journal_report _ _
        | some ending => rfl
  rw [Enters, hends, hlaunching]
  simp only [List.append_assoc, List.cons_append, List.nil_append]

end Shell
end LineShell
