import LineShell.Proofs.IoError.Reason
import LineShell.Proofs.Shell.Journal
import LineShell.Proofs.Shell.Reporting

/-!
# Failing operations and what is reported of them

Executing a command asks the system for a few operations of the shell's own (`Operation`), and
`FailsAt` says that one of them fails, and why. Each such failure is reported in one line that is
about it (`exists_report`), and no other failure is reported (`reported_failures`).

The line ends with the system's reason for every operation but one (`reports_reason_iff`). A builtin
that cannot write its output is reported with the full text of the error, and the number comes last
(`writing_gives_number`).
-/

namespace LineShell

/-- What the shell itself asks of the system for a command. It also waits for a started program; why
that fails is not reported. -/
inductive Operation where
  /-- The target of the redirection is opened. -/
  | opening
  /-- The working directory is changed. -/
  | entering
  /-- The path of the working directory is read. -/
  | locating
  /-- A program is started. -/
  | starting
  /-- Regular output is flushed. -/
  | flushing
  /-- A builtin's lines are written to its output. -/
  | writing
  deriving Repr, DecidableEq

namespace Diagnostic

/-- The operation that a diagnostic is about, and why it failed. -/
def failure? : Diagnostic → Option (Operation × IoError)
  | .target _ cause => some (.opening, cause)
  | .directory _ cause => some (.entering, cause)
  | .workingDirectory cause => some (.locating, cause)
  | .start _ cause => some (.starting, cause)
  | .flush cause => some (.flushing, cause)
  | .output cause => some (.writing, cause)
  | .badLine _ | .notFound _ | .missingArgument _ | .wait _ | .other _ => none

theorem suffix_about (subject : Text) {reason remark : Text} (h : reason <:+ remark) :
    reason <:+ about subject remark :=
  h.trans (List.suffix_append _ _)

theorem reason_suffix_text_iff {d : Diagnostic} {op : Operation} {n : Errno}
    (h : d.failure? = some (op, .system n)) : n.reason <:+ d.text ↔ op ≠ .writing := by
  have hreason : n.reason <:+ (IoError.system n).reason := ⟨[], (IoError.reason_system n).symm⟩
  cases d with
  | target path cause =>
      cases h
      exact iff_of_true (suffix_about _ hreason) nofun
  | directory path cause =>
      cases h
      exact iff_of_true (suffix_about _ (suffix_about _ hreason)) nofun
  | workingDirectory cause =>
      cases h
      exact iff_of_true (suffix_about _ hreason) nofun
  | start name cause =>
      cases h
      exact iff_of_true (suffix_about _ hreason) nofun
  | flush cause =>
      cases h
      exact iff_of_true (suffix_about _ hreason) nofun
  | output cause =>
      cases h
      exact iff_of_false (IoError.not_reason_suffix_text n) (not_not_intro rfl)
  | badLine e => cases h
  | notFound name => cases h
  | missingArgument builtin => cases h
  | wait name => cases h
  | other message => cases h

end Diagnostic

namespace Shell

variable {sh : Shell} {s : Session} {c : Command} {op : Operation} {e : IoError}

/-- An operation that executing the command comes to fails. A stream of the shell's own can fail
with any error. What the files refuse, they refuse for what they are: opening fails with one of a
few errors only, such as that the target is a directory, entering likewise, and locating with no
entry alone. -/
inductive FailsAt (sh : Shell) (s : Session) (c : Command) : Operation → IoError → Prop
  | opening {p : Text} {e : IoError} (hknows : sh.Knows s c.name) (htarget : c.target = some p)
      (hcreate : s.files.create s.cwd p = .error e) : FailsAt sh s c .opening e
  | entering {o : Output} {files : FileTree} {p : Text} {args : List Text} {e : IoError}
      (hinvokes : sh.Invokes s c Builtin.cd o files) (hargs : c.args = p :: args)
      (hdirectory : files.directory s.cwd (sh.env.expandTilde p) = .error e) :
      FailsAt sh s c .entering e
  | locating {o : Output} {files : FileTree} (hinvokes : sh.Invokes s c Builtin.pwd o files)
      (hpath : s.cwd.path? = none) : FailsAt sh s c .locating (.system .noEntry)
  | starting {path : Text} {o : Output} {files : FileTree} {e : IoError}
      (hlaunches : sh.Launches s c path o files)
      (hattempt : sh.attempt s c path o files = .error e) : FailsAt sh s c .starting e
  | flushing {path : Text} {o : Output} {files : FileTree} {e : IoError}
      (hlaunches : sh.Launches s c path o files) (hsync : s.syncOut.1 = some e) :
      FailsAt sh s c .flushing e
  | writing {b : Builtin} {o : Output} {files : FileTree} {e : IoError}
      (hinvokes : sh.Invokes s c b o files)
      (hlines : ((s.directed c files).emitLines o (sh.action s c b files).lines).1 = some e) :
      FailsAt sh s c .writing e

/-- The line is reported of the failing operation. Nothing else is, except that a failing flush
comes before the start of a program. -/
def Reports (sh : Shell) (s : Session) (c : Command) (op : Operation) (line : Text) : Prop :=
  match op with
  | .flushing => ∃ theirs rest, s.ErrGains (sh.execute c s).2 (Line.ofText line) theirs rest
  | .starting => s.ErrGains (sh.execute c s).2 s.flushNotice [] (Line.ofText line)
  | _ => s.ErrGrows (sh.execute c s).2 [] (Line.ofText line)

theorem errGrows_of_unopened {d : Diagnostic} (hs : s.err.TakesAll) (hknows : sh.Knows s c.name)
    (hopen : s.files.openTarget s.cwd c.target = .error d) :
    s.ErrGrows (sh.execute c s).2 [] (Line.ofText d.text) := by
  rw [execute_unopened hknows hopen]
  exact errGrows_takenUp_report hs c d

theorem exists_report (hs : s.err.TakesAll) (h : sh.FailsAt s c op e) :
    ∃ d, Diagnostic.failure? d = some (op, e) ∧ sh.Reports s c op d.text := by
  cases h with
  | @opening p _ hknows htarget hcreate =>
      have hopen : s.files.openTarget s.cwd c.target = .error (.target p e) := by
        rw [htarget, FileTree.openTarget, hcreate]
      exact ⟨.target p e, rfl, errGrows_of_unopened hs hknows hopen⟩
  | @entering o files p args _ hinvokes hargs hdirectory =>
      have haction : sh.action s c Builtin.cd files
          = .fail (.directory (sh.env.expandTilde p) e) := by
        rw [action, hargs, Builtin.cd_act, hdirectory]
      have hgrows := errGrows_of_invokes hs hinvokes
      rw [haction] at hgrows
      exact ⟨.directory (sh.env.expandTilde p) e, rfl, hgrows⟩
  | locating hinvokes hpath =>
      have haction : ∀ files, sh.action s c Builtin.pwd files
          = .fail (.workingDirectory (.system .noEntry)) := by
        intro files
        simp only [action, Builtin.pwd, hpath]
      have hgrows := errGrows_of_invokes hs hinvokes
      rw [haction] at hgrows
      exact ⟨.workingDirectory (.system .noEntry), rfl, hgrows⟩
  | starting hlaunches hattempt =>
      have hgains := errGains_of_launches hlaunches hs
      rw [hattempt] at hgains
      exact ⟨.start c.name e, rfl, hgains⟩
  | flushing hlaunches hsync =>
      have hgains := errGains_of_launches hlaunches hs
      rw [Session.flushNotice, hsync] at hgains
      exact ⟨.flush e, rfl, _, _, hgains⟩
  | writing hinvokes hlines =>
      have hgrows := errGrows_of_invokes hs hinvokes
      rw [Session.remarks, hlines] at hgrows
      exact ⟨.output e, rfl, hgrows⟩

/-! ## Nothing else is reported -/

theorem failsAt_of_unopened {d : Diagnostic} (hknows : sh.Knows s c.name)
    (hopen : s.files.openTarget s.cwd c.target = .error d)
    (hfailure : d.failure? = some (op, e)) : sh.FailsAt s c op e := by
  cases htarget : c.target with
  | none =>
      rw [htarget] at hopen
      cases hopen
  | some p =>
      rw [htarget, FileTree.openTarget] at hopen
      split at hopen
      · next hcreate =>
          cases hopen
          cases hfailure
          exact .opening hknows htarget hcreate
      · cases hopen

theorem failsAt_of_perform (hstd : sh.builtins = .standard) {b : Builtin} {o : Output}
    {files : FileTree} {d : Diagnostic} (hinvokes : sh.Invokes s c b o files)
    (hperform : ((s.directed c files).perform o (sh.action s c b files)).1 = .error d)
    (hfailure : d.failure? = some (op, e)) : sh.FailsAt s c op e := by
  rw [Session.perform_eq] at hperform
  cases hlines : ((s.directed c files).emitLines o (sh.action s c b files).lines).1 with
  | some fault =>
      rw [hlines] at hperform
      cases hperform
      cases hfailure
      exact .writing hinvokes hlines
  | none =>
      rw [hlines] at hperform
      rcases Builtin.error_of_standard (hinvokes.standard hstd) hperform with
        ⟨builtin, rfl⟩ | ⟨rfl, hpath, rfl⟩ | ⟨p, rest, cause, rfl, hargs, hdirectory, rfl⟩
      · cases hfailure
      · cases hfailure
        exact .locating hinvokes hpath
      · cases hfailure
        exact .entering hinvokes hargs hdirectory

theorem failsAt_of_launches {path : Text} {o : Output} {files : FileTree} {d : Diagnostic}
    (h : sh.Launches s c path o files)
    (hmem : .reported d ∈ s.flushEvents ++ .starting path (c.name :: c.args)
      :: endEvents c.name (sh.attempt s c path o files))
    (hfailure : d.failure? = some (op, e)) : sh.FailsAt s c op e := by
  rcases List.mem_append.mp hmem with hflush | hstart
  · obtain ⟨fault, hsync, hevent⟩ := Session.mem_flushEvents hflush
    cases hevent
    cases hfailure
    exact .flushing h hsync
  · have hend := (List.mem_cons.mp hstart).resolve_left nofun
    cases hattempt : sh.attempt s c path o files with
    | ok effect =>
        rw [hattempt, endEvents] at hend
        cases hending : effect.ending with
        | none =>
            rw [hending] at hend
            cases List.mem_singleton.mp hend
            cases hfailure
        | some ending =>
            rw [hending] at hend
            cases List.mem_singleton.mp hend
    | error fault =>
        rw [hattempt] at hend
        cases List.mem_singleton.mp hend
        cases hfailure
        exact .starting h hattempt

/-- Every failure that is reported while a command is executed is one that the command comes to. -/
theorem reported_failures (hstd : sh.builtins = .standard) (s : Session) (c : Command) :
    ∃ events, sh.Enters s c events ∧ ∀ d op e, .reported d ∈ events →
      d.failure? = some (op, e) → sh.FailsAt s c op e := by
  obtain ⟨hbuiltin, hprogram⟩ | ⟨d, hknows, hopen⟩ | ⟨b, o, files, hinvokes⟩ |
    ⟨path, o, files, hlaunches⟩ := sh.command_cases s c
  · refine ⟨_, enters_of_unknown hbuiltin hprogram, fun d op e hmem hfailure => ?_⟩
    cases List.mem_singleton.mp hmem
    cases hfailure
  · refine ⟨_, enters_of_unopened hknows hopen, fun d' op e hmem hfailure => ?_⟩
    cases List.mem_singleton.mp hmem
    exact failsAt_of_unopened hknows hopen hfailure
  · refine ⟨_, enters_of_invokes hinvokes, fun d op e hmem hfailure => ?_⟩
    cases hperform : ((s.directed c files).perform o (sh.action s c b files)).1 with
    | ok outcome =>
        rw [hperform] at hmem
        exact absurd hmem List.not_mem_nil
    | error d' =>
        rw [hperform] at hmem
        cases List.mem_singleton.mp hmem
        exact failsAt_of_perform hstd hinvokes hperform hfailure
  · exact ⟨_, enters_of_launches hlaunches,
      fun d op e hmem hfailure => failsAt_of_launches hlaunches hmem hfailure⟩

/-! ## Reasons -/

/-- A failure by an error of the system is reported in a line that ends with the system's reason,
for every operation but a builtin's writing: there the number follows the reason. The failure to
flush regular output at the end of a line is reported with the reason as well. -/
theorem reports_reason_iff (sh : Shell) (hs : s.err.TakesAll) :
    (∀ c op n, sh.FailsAt s c op (.system n) →
      ∃ line, sh.Reports s c op line ∧ (n.reason <:+ line ↔ op ≠ .writing))
      ∧ ∀ line n, (sh.unflushed line s).syncOut.1 = some (.system n) →
        ∃ notice, (sh.unflushed line s).ErrGrows (sh.executeLine line s).2 [] (Line.ofText notice)
          ∧ n.reason <:+ notice := by
  refine ⟨fun c op n hfails => ?_, fun line n hsync => ?_⟩
  · obtain ⟨d, hfailure, hreports⟩ := exists_report hs hfails
    exact ⟨d.text, hreports, Diagnostic.reason_suffix_text_iff hfailure⟩
  · have hflush : Diagnostic.failure? (.flush (.system n)) = some (.flushing, .system n) := rfl
    have hgrows : (sh.unflushed line s).ErrGrows (sh.executeLine line s).2 []
        (sh.unflushed line s).flushNotice := errGrows_executeLine hs line
    rw [Session.flushNotice, hsync] at hgrows
    exact ⟨_, hgrows, (Diagnostic.reason_suffix_text_iff hflush).mpr (by decide)⟩

/-- A target that is a directory. -/
theorem reports_reason_iff_directory :
    ({} : Session).err.TakesAll
      ∧ FailsAt {} {} ⟨"echo".toList, [['x']], some ['/']⟩ .opening (.system .isDirectory)
      ∧ (∃ line, Reports {} {} ⟨"echo".toList, [['x']], some ['/']⟩ .opening line
        ∧ Errno.isDirectory.reason <:+ line)
      ∧ (execute {} ⟨"echo".toList, [['x']], some ['/']⟩ {}).2.stderr
        = Line.ofText "/: Is a directory".toList := by
  have htakes : ({} : Session).err.TakesAll := by
    rintro f ⟨⟩
  have hfails : FailsAt {} {} ⟨"echo".toList, [['x']], some ['/']⟩ .opening
      (.system .isDirectory) :=
    .opening (knows_of_builtin (b := Builtin.echo) rfl) rfl rfl
  obtain ⟨line, hreports, hreason⟩ := (reports_reason_iff {} htakes).1 _ _ _ hfails
  exact ⟨htakes, hfails, ⟨line, hreports, hreason.mpr nofun⟩, by decide +kernel⟩

/-- An `echo` to a device that is full. -/
theorem writing_gives_number :
    FailsAt {} { files := .devices } ⟨"echo".toList, [['x']], some "/dev/full".toList⟩ .writing
        (.system .noSpace)
      ∧ (execute {} ⟨"echo".toList, [['x']], some "/dev/full".toList⟩
          { files := .devices }).2.stderr
        = Line.ofText "No space left on device (os error 28)".toList
      ∧ Errno.noSpace.reason = "No space left on device".toList
      ∧ ¬ Errno.noSpace.reason <:+ "No space left on device (os error 28)".toList := by
  have hinvokes : Invokes {} { files := .devices }
      ⟨"echo".toList, [['x']], some "/dev/full".toList⟩ Builtin.echo (.file (.device .full))
      .devices := ⟨rfl, rfl⟩
  refine ⟨.writing hinvokes (by decide +kernel), by decide +kernel, by decide +kernel, ?_⟩
  have htext : "No space left on device (os error 28)".toList = (IoError.system .noSpace).text := by
    decide +kernel
  rw [htext]
  exact IoError.not_reason_suffix_text _

end Shell
end LineShell
