import LineShell.Proofs.Shell.Execute

/-!
# The course of a line

Everything that can happen when a line is executed, as a relation: `Course sh s line o s'` has one
constructor for each way from the line to its outcome `o` and the session `s'` after it, with all
that decides for this way. It is the relation that execution computes (`course_iff`), so whatever a
line can do is said once, here, and a statement about lines is proved by cases on their course.

What decides is read off the session before the line: reading, looking up, opening and loading
depend only on its store, which the records and flushes in between leave alone.
-/

namespace LineShell

namespace Session

/-- The session once a line was scanned. -/
def scanned (s : Session) (line : Text) : Session :=
  s.record (.scanned (Token.tokenize line))

/-- The session once a line was scanned and its command taken up. -/
def dispatched (s : Session) (line : Text) (c : Command) : Session :=
  (s.scanned line).record (.dispatched c)

/-- The session once the output of the line's command is open. -/
def opened (s : Session) (line : Text) (c : Command) (files : FileTree) : Session :=
  { s.dispatched line c with files := files }

/-- The session once the line's program is about to be started. -/
def readied (s : Session) (line : Text) (c : Command) (path : Text) (files : FileTree) : Session :=
  (s.opened line c files).flush.record (.starting path (c.name :: c.args))

theorem store_readied (s : Session) (line : Text) (c : Command) (path : Text) (files : FileTree) :
    (s.readied line c path files).store = ⟨files, s.cwd, s.input⟩ :=
  (s.scanned line).store_launching c path files

end Session

namespace Shell

/-! ## The relation -/

inductive Course (sh : Shell) (s : Session) (line : Text) : Outcome → Session → Prop
  | rejected {e : SyntaxError} (hline : Command.ofLine line = .error e) :
      Course sh s line (.proceed Status.badLine) ((s.scanned line).report (.badLine e)).flush
  | blank (hline : Command.ofLine line = .ok none) :
      Course sh s line (.proceed 0) (s.scanned line).flush
  | unknown {c : Command} (hline : Command.ofLine line = .ok (some c))
      (hbuiltin : sh.builtins.get? c.name = none)
      (hprogram : sh.env.locate s.files s.cwd c.name = none) :
      Course sh s line (.proceed Status.notFound)
        ((s.dispatched line c).report (.notFound c.name)).flush
  | unopened {c : Command} {d : Diagnostic} (hline : Command.ofLine line = .ok (some c))
      (hknown : sh.Knows s c.name) (hopen : s.files.openTarget s.cwd c.target = .error d) :
      Course sh s line (.proceed Status.failure) ((s.dispatched line c).report d).flush
  | failed {c : Command} {b : Builtin} {o : Output} {files : FileTree} {d : Diagnostic}
      {s' : Session} (hline : Command.ofLine line = .ok (some c))
      (hinvokes : sh.Invokes s c b o files)
      (hact : (s.opened line c files).perform o (sh.action s c b files) = (.error d, s')) :
      Course sh s line (.proceed Status.failure) (s'.report d).flush
  | acted {c : Command} {b : Builtin} {o : Output} {files : FileTree} {outcome : Outcome}
      {s' : Session} (hline : Command.ofLine line = .ok (some c))
      (hinvokes : sh.Invokes s c b o files)
      (hact : (s.opened line c files).perform o (sh.action s c b files) = (.ok outcome, s')) :
      Course sh s line outcome s'.flush
  | unstarted {c : Command} {path : Text} {o : Output} {files : FileTree} {fault : IoError}
      (hline : Command.ofLine line = .ok (some c)) (hlaunches : sh.Launches s c path o files)
      (hstart : sh.attempt s c path o files = .error fault) :
      Course sh s line (.proceed Status.cannotStart)
        ((s.readied line c path files).report (.start c.name fault)).flush
  | ended {c : Command} {path : Text} {o : Output} {files : FileTree} {e : Effect}
      (hline : Command.ofLine line = .ok (some c)) (hlaunches : sh.Launches s c path o files)
      (hstart : sh.attempt s c path o files = .ok e) :
      Course sh s line (outcomeOf e.ending)
        (((s.readied line c path files).absorb o e).finish c.name e.ending).flush

/-! ## Execution computes the relation -/

theorem executeLine_eq (sh : Shell) (line : Text) (s : Session) :
    sh.executeLine line s = match Command.ofLine line with
      | .error e => (.proceed Status.badLine, ((s.scanned line).report (.badLine e)).flush)
      | .ok none => (.proceed 0, (s.scanned line).flush)
      | .ok (some c) =>
        let done := sh.execute c (s.scanned line)
        (done.1, done.2.flush) := by
  show ((sh.executeTokens (Token.tokenize line) (s.scanned line)).1,
    (sh.executeTokens (Token.tokenize line) (s.scanned line)).2.flush) = _
  rw [executeTokens, Command.ofLine]
  cases Command.ofTokens (Token.tokenize line) with
  | error e => rfl
  | ok found => cases found <;> rfl

theorem Invokes.scanned {sh : Shell} {s : Session} {c : Command} {b : Builtin} {o : Output}
    {files : FileTree} (h : sh.Invokes s c b o files) (line : Text) :
    sh.Invokes (s.scanned line) c b o files :=
  ⟨h.builtin, h.opened⟩

theorem Launches.scanned {sh : Shell} {s : Session} {c : Command} {path : Text} {o : Output}
    {files : FileTree} (h : sh.Launches s c path o files) (line : Text) :
    sh.Launches (s.scanned line) c path o files :=
  ⟨h.builtin, h.program, h.opened⟩

theorem executeLine_of_execute {sh : Shell} {s s' : Session} {line : Text} {c : Command}
    {o : Outcome} (hline : Command.ofLine line = .ok (some c))
    (h : sh.execute c (s.scanned line) = (o, s')) : sh.executeLine line s = (o, s'.flush) := by
  rw [executeLine_eq, hline]
  simp only [h]

theorem executeLine_of_course {sh : Shell} {s s' : Session} {line : Text} {o : Outcome}
    (h : sh.Course s line o s') : sh.executeLine line s = (o, s') := by
  cases h with
  | rejected hline => rw [executeLine_eq, hline]
  | blank hline => rw [executeLine_eq, hline]
  | unknown hline hbuiltin hprogram =>
      exact executeLine_of_execute hline (execute_unknown hbuiltin hprogram)
  | unopened hline hknown hopen =>
      exact executeLine_of_execute hline (execute_unopened hknown hopen)
  | failed hline hinvokes hact =>
      have hrun := execute_invokes (hinvokes.scanned line)
      exact executeLine_of_execute hline (hrun.trans (congrArg Session.settle hact))
  | acted hline hinvokes hact =>
      have hrun := execute_invokes (hinvokes.scanned line)
      exact executeLine_of_execute hline (hrun.trans (congrArg Session.settle hact))
  | unstarted hline hlaunches hstart =>
      exact executeLine_of_execute hline (execute_unstarted (hlaunches.scanned line) hstart)
  | ended hline hlaunches hstart =>
      exact executeLine_of_execute hline (execute_ended (hlaunches.scanned line) hstart)

theorem exists_course (sh : Shell) (s : Session) (line : Text) :
    ∃ o s', sh.Course s line o s' := by
  cases hline : Command.ofLine line with
  | error e => exact ⟨_, _, .rejected hline⟩
  | ok found =>
      cases found with
      | none => exact ⟨_, _, .blank hline⟩
      | some c =>
          obtain ⟨hbuiltin, hprogram⟩ | ⟨d, hknows, hopen⟩ | ⟨b, o, files, hinvokes⟩ |
            ⟨path, o, files, hlaunches⟩ := sh.command_cases s c
          · exact ⟨_, _, .unknown hline hbuiltin hprogram⟩
          · exact ⟨_, _, .unopened hline hknows hopen⟩
          · cases hact : (s.opened line c files).perform o (sh.action s c b files) with
            | mk result s' =>
                cases result with
                | error d => exact ⟨_, _, .failed hline hinvokes hact⟩
                | ok outcome => exact ⟨_, _, .acted hline hinvokes hact⟩
          · cases hstart : sh.attempt s c path o files with
            | error fault => exact ⟨_, _, .unstarted hline hlaunches hstart⟩
            | ok e => exact ⟨_, _, .ended hline hlaunches hstart⟩

theorem executeLine_course (sh : Shell) (s : Session) (line : Text) :
    sh.Course s line (sh.executeLine line s).1 (sh.executeLine line s).2 := by
  obtain ⟨o, s', h⟩ := sh.exists_course s line
  rw [executeLine_of_course h]
  exact h

theorem course_iff {sh : Shell} {s s' : Session} {line : Text} {o : Outcome} :
    sh.Course s line o s' ↔ sh.executeLine line s = (o, s') := by
  constructor
  · exact executeLine_of_course
  · intro h
    have hcourse := sh.executeLine_course s line
    rwa [h] at hcourse

/-! ## Runs -/

/-- The session after some lines. -/
def run (sh : Shell) (s : Session) (lines : List Text) : Session :=
  lines.foldl (fun s line => (sh.executeLine line s).2) s

/-- What every course keeps holds after every run. -/
theorem run_keeps {sh : Shell} {Keeps : Session → Prop}
    (hcourse : ∀ {s s' : Session} {line : Text} {o : Outcome},
      sh.Course s line o s' → Keeps s → Keeps s')
    {s : Session} (h : Keeps s) (lines : List Text) : Keeps (sh.run s lines) := by
  induction lines generalizing s with
  | nil => exact h
  | cons line lines ih => exact ih (hcourse (sh.executeLine_course s line) h)

/-- What the basic steps of a line keep, and whatever programs do to the files, every course
keeps. -/
theorem steps_of_course {R : Session → Session → Prop} (hR : Session.LineSteps R) {sh : Shell}
    (halter : ∀ program launch s, R s (s.alter (sh.programs program launch)))
    {s s' : Session} {line : Text} {o : Outcome} (h : sh.Course s line o s') : R s s' := by
  have hscanned : R s (s.scanned line) := hR.record s (.scanned (Token.tokenize line))
  have hdispatched : ∀ c, R s (s.dispatched line c) :=
    fun c => hR.trans hscanned (hR.record _ (.dispatched c))
  have hopened : ∀ {c output files},
      s.files.openTarget s.cwd c.target = .ok (output, files) → R s (s.opened line c files) := by
    intro c output files hopen
    have hopen' := openOutput_takenUp (s.scanned line) c
    have hfiles : (s.scanned line).files.openTarget (s.scanned line).cwd c.target
        = .ok (output, files) := hopen
    rw [hfiles] at hopen'
    exact hR.trans (hdispatched c) (hR.openOutput hopen')
  have hreadied : ∀ {c path output files},
      s.files.openTarget s.cwd c.target = .ok (output, files) →
        R s (s.readied line c path files) :=
    fun hopen => hR.trans (hR.trans (hopened hopen) (hR.flush _)) (hR.record _ _)
  have hperformed : ∀ {c output files a result t},
      s.files.openTarget s.cwd c.target = .ok (output, files) →
        (s.opened line c files).perform output a = (result, t) → R s t := by
    intro c output files a result t hopen hact
    have hperform := hR.perform (s.opened line c files) output a
    rw [hact] at hperform
    exact hR.trans (hopened hopen) hperform
  cases h with
  | rejected => exact hR.trans (hR.trans hscanned (hR.report _ _)) (hR.flush _)
  | blank => exact hR.trans hscanned (hR.flush _)
  | unknown => exact hR.trans (hR.trans (hdispatched _) (hR.report _ _)) (hR.flush _)
  | unopened => exact hR.trans (hR.trans (hdispatched _) (hR.report _ _)) (hR.flush _)
  | failed hline hinvokes hact =>
      exact hR.trans (hR.trans (hperformed hinvokes.opened hact) (hR.report _ _)) (hR.flush _)
  | acted hline hinvokes hact => exact hR.trans (hperformed hinvokes.opened hact) (hR.flush _)
  | unstarted hline hlaunches =>
      exact hR.trans (hR.trans (hreadied hlaunches.opened) (hR.report _ _)) (hR.flush _)
  | @ended c path output files e hline hlaunches hstart =>
      have halter' : ∀ s, R s (s.alter e) :=
        effect_of_attempt (P := fun e => ∀ s, R s (s.alter e)) halter hstart
      exact hR.trans (hR.trans (hR.trans (hreadied hlaunches.opened) (hR.absorb halter' _ _))
        (hR.finish _ _ _)) (hR.flush _)

/-- No line changes how the streams of the shell fail. -/
theorem faults_of_course {sh : Shell} {s s' : Session} {line : Text} {o : Outcome}
    (h : sh.Course s line o s') : s'.faults = s.faults :=
  steps_of_course Session.lineSteps_faults (fun _ _ _ => rfl) h

end Shell
end LineShell
