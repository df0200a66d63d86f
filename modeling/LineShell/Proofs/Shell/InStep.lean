import LineShell.Proofs.Session.Work
import LineShell.Proofs.Shell.Status

/-!
# Two runs in step

Two runs of a shell are compared line by line through a relation between their sessions. The
relation is *in step* (`Session.InStep`) if related sessions have the same store, if it survives
every basic step that both runs take, and if a report of either run alone does not matter to it. So
the runs may differ in what they report, and in nothing else that decides about a command.

A line that runs no builtin has the same outcome in both runs and leaves them related
(`executeLine_inStep`). A line that runs one is left to the relation at hand, since what becomes of
a builtin's output is a matter of its own; both runs then carry out the same action
(`executeLine_invokes`, `action_of_store`).
-/

namespace LineShell

namespace Session

structure InStep (R : Session → Session → Prop) : Prop where
  store : ∀ {s t}, R s t → s.store = t.store
  record : ∀ {s t}, R s t → ∀ e, R (s.record e) (t.record e)
  reportLeft : ∀ {s t}, R s t → ∀ d, R (s.report d) t
  reportRight : ∀ {s t}, R s t → ∀ d, R s (t.report d)
  syncOut : ∀ {s t}, R s t → R s.syncOut.2 t.syncOut.2
  files : ∀ {s t}, R s t → ∀ files, R { s with files := files } { t with files := files }
  conclude : ∀ {s t}, R s t → ∀ a, R (s.conclude a) (t.conclude a)
  absorb : ∀ {s t}, R s t → ∀ o e, R (s.absorb o e) (t.absorb o e)

namespace InStep

variable {R : Session → Session → Prop} {s t : Session}

theorem report (hR : InStep R) (h : R s t) (d d' : Diagnostic) : R (s.report d) (t.report d') :=
  hR.reportRight (hR.reportLeft h d) d'

theorem flush (hR : InStep R) (h : R s t) : R s.flush t.flush := by
  have hsync := hR.syncOut h
  rw [flush_eq, flush_eq]
  cases s.syncOut.1 with
  | none =>
      cases t.syncOut.1 with
      | none => exact hsync
      | some fault => exact hR.reportRight hsync _
  | some fault =>
      cases t.syncOut.1 with
      | none => exact hR.reportLeft hsync _
      | some fault' => exact hR.report hsync _ _

theorem finish (hR : InStep R) (h : R s t) (name : Text) (ending : Option Ending) :
    R (s.finish name ending) (t.finish name ending) := by
  cases ending with
  | none => exact hR.report h _ _
  | some ending => exact hR.record h _

theorem takenUp (hR : InStep R) (h : R s t) (c : Command) : R (s.takenUp c) (t.takenUp c) :=
  hR.record h _

theorem directed (hR : InStep R) (h : R s t) (c : Command) (files : FileTree) :
    R (s.directed c files) (t.directed c files) :=
  hR.files (hR.takenUp h c) files

theorem opened (hR : InStep R) (h : R s t) (line : Text) (c : Command) (files : FileTree) :
    R (s.opened line c files) (t.opened line c files) :=
  hR.directed (hR.record h _) c files

theorem launching (hR : InStep R) (h : R s t) (c : Command) (path : Text) (files : FileTree) :
    R (s.launching c path files) (t.launching c path files) :=
  hR.record (hR.flush (hR.directed h c files)) _

/-- Output to what both runs have opened. -/
theorem emitLines_file (hR : InStep R) (h : R s t) (d : Destination) (lines : List Text) :
    (s.emitLines (.file d) lines).1 = (t.emitLines (.file d) lines).1
      ∧ R (s.emitLines (.file d) lines).2 (t.emitLines (.file d) lines).2 := by
  induction lines generalizing s t with
  | nil => exact ⟨rfl, h⟩
  | cons line lines ih =>
      have hfiles : s.files = t.files := files_eq (hR.store h)
      have hwritten := hR.files h (s.files.write d (Line.ofText line)).2
      rw [emitLines_cons, emitLines_cons]
      simp only [emit, ← hfiles]
      cases (s.files.write d (Line.ofText line)).1 with
      | some fault => exact ⟨rfl, hwritten⟩
      | none => exact ih hwritten

theorem perform (hR : InStep R) {o : Output} {a : Action}
    (hfault : (s.emitLines o a.lines).1 = (t.emitLines o a.lines).1)
    (h : R (s.emitLines o a.lines).2 (t.emitLines o a.lines).2) :
    (s.perform o a).1 = (t.perform o a).1 ∧ R (s.perform o a).2 (t.perform o a).2 := by
  rw [perform_eq, perform_eq, hfault]
  cases (t.emitLines o a.lines).1 with
  | some fault => exact ⟨rfl, h⟩
  | none => exact ⟨rfl, hR.conclude h a⟩

theorem settle (hR : InStep R) {p q : Except Diagnostic Outcome × Session} (hresult : p.1 = q.1)
    (h : R p.2 q.2) : (settle p).1 = (settle q).1 ∧ R (settle p).2 (settle q).2 := by
  obtain ⟨result, s⟩ := p
  obtain ⟨result', t⟩ := q
  cases hresult
  cases result with
  | ok outcome => exact ⟨rfl, h⟩
  | error d => exact ⟨rfl, hR.report h d d⟩

end InStep
end Session

namespace Shell

variable {sh : Shell} {s t : Session} {c : Command} {line : Text}

/-! ## What decides about a command -/

section

variable (hstore : s.store = t.store)
include hstore

theorem openTarget_of_store (target : Option Text) :
    s.files.openTarget s.cwd target = t.files.openTarget t.cwd target := by
  rw [Session.files_eq hstore, Session.cwd_eq hstore]
  rfl

theorem locate_of_store (env : Environment) (name : Text) :
    env.locate s.files s.cwd name = env.locate t.files t.cwd name := by
  rw [Session.files_eq hstore, Session.cwd_eq hstore]
  rfl

theorem Invokes.of_store {b : Builtin} {o : Output} {files : FileTree}
    (h : sh.Invokes s c b o files) : sh.Invokes t c b o files :=
  ⟨h.builtin, (openTarget_of_store hstore _).symm.trans h.opened⟩

theorem Launches.of_store {path : Text} {o : Output} {files : FileTree}
    (h : sh.Launches s c path o files) : sh.Launches t c path o files :=
  ⟨h.builtin, (locate_of_store hstore _ _).symm.trans h.program,
    (openTarget_of_store hstore _).symm.trans h.opened⟩

theorem action_of_store (b : Builtin) (files : FileTree) :
    sh.action s c b files = sh.action t c b files := by
  rw [action, action, Session.cwd_eq hstore]
  rfl

theorem attempt_of_store (path : Text) (o : Output) (files : FileTree) :
    sh.attempt s c path o files = sh.attempt t c path o files := by
  rw [attempt, attempt, Session.cwd_eq hstore, Session.input_eq hstore]
  rfl

theorem Starts.of_store {e : Effect} (h : sh.Starts s line e) : sh.Starts t line e := by
  obtain ⟨c, path, o, files, hline, hlaunches, hstart⟩ := h
  exact ⟨c, path, o, files, hline, hlaunches.of_store hstore,
    (attempt_of_store hstore path o files).symm.trans hstart⟩

end

theorem starts_iff_of_store (hstore : s.store = t.store) {e : Effect} :
    sh.Starts s line e ↔ sh.Starts t line e :=
  ⟨Starts.of_store hstore, Starts.of_store hstore.symm⟩

/-! ## Commands -/

/-- The command runs a builtin, and its output can be opened. -/
def InvokesSome (sh : Shell) (s : Session) (c : Command) : Prop :=
  ∃ b o files, sh.Invokes s c b o files

/-- The command stands for a program, and its output can be opened. -/
def LaunchesSome (sh : Shell) (s : Session) (c : Command) : Prop :=
  ∃ path o files, sh.Launches s c path o files

/-- A command that gets nowhere is reported, and the report is decided by the store alone. -/
theorem exists_dismissal (hinvokes : ¬ sh.InvokesSome s c) (hlaunches : ¬ sh.LaunchesSome s c) :
    ∃ code d, ∀ t : Session, s.store = t.store →
      sh.execute c t = (.proceed code, (t.takenUp c).report d) := by
  obtain ⟨hbuiltin, hprogram⟩ | ⟨d, hknows, hopen⟩ | hsome | hsome := sh.command_cases s c
  · refine ⟨Status.notFound, .notFound c.name, fun t hstore => ?_⟩
    exact execute_unknown hbuiltin ((locate_of_store hstore _ _).symm.trans hprogram)
  · refine ⟨Status.failure, d, fun t hstore => ?_⟩
    have hknows' : sh.Knows t c.name := by
      rw [Knows, ← locate_of_store hstore]
      exact hknows
    exact execute_unopened hknows' ((openTarget_of_store hstore _).symm.trans hopen)
  · exact absurd hsome hinvokes
  · exact absurd hsome hlaunches

variable {R : Session → Session → Prop}

theorem execute_inStep (hR : Session.InStep R) (h : R s t) (hnone : ¬ sh.InvokesSome s c) :
    (sh.execute c s).1 = (sh.execute c t).1 ∧ R (sh.execute c s).2 (sh.execute c t).2 := by
  have hstore := hR.store h
  by_cases hsome : sh.LaunchesSome s c
  · obtain ⟨path, o, files, hlaunches⟩ := hsome
    have hlaunches' := hlaunches.of_store hstore
    have hready := hR.launching h c path files
    have hattempt : sh.attempt s c path o files = sh.attempt t c path o files :=
      attempt_of_store hstore path o files
    cases hstart : sh.attempt s c path o files with
    | error fault =>
        have hstart' := hattempt.symm.trans hstart
        rw [execute_unstarted hlaunches hstart, execute_unstarted hlaunches' hstart']
        exact ⟨rfl, hR.report hready _ _⟩
    | ok e =>
        have hstart' := hattempt.symm.trans hstart
        rw [execute_ended hlaunches hstart, execute_ended hlaunches' hstart']
        exact ⟨rfl, hR.finish (hR.absorb hready o e) _ _⟩
  · obtain ⟨code, d, hdismissed⟩ := exists_dismissal hnone hsome
    rw [hdismissed s rfl, hdismissed t hstore]
    exact ⟨rfl, hR.report (hR.takenUp h c) d d⟩

/-! ## Lines -/

def LineInvokes (sh : Shell) (s : Session) (line : Text) : Prop :=
  ∃ c, Command.ofLine line = .ok (some c) ∧ sh.InvokesSome s c

theorem executeLine_inStep (hR : Session.InStep R) (h : R s t)
    (hnone : ¬ sh.LineInvokes s line) :
    (sh.executeLine line s).1 = (sh.executeLine line t).1
      ∧ R (sh.executeLine line s).2 (sh.executeLine line t).2 := by
  have hscanned : R (s.scanned line) (t.scanned line) := hR.record h _
  rw [executeLine_eq, executeLine_eq]
  cases hline : Command.ofLine line with
  | error e => exact ⟨rfl, hR.flush (hR.report hscanned _ _)⟩
  | ok found =>
      cases found with
      | none => exact ⟨rfl, hR.flush hscanned⟩
      | some c =>
          have hnone' : ¬ sh.InvokesSome (s.scanned line) c := by
            rintro ⟨b, o, files, hinvokes⟩
            exact hnone ⟨c, hline, b, o, files, hinvokes.builtin, hinvokes.opened⟩
          obtain ⟨houtcome, hrelated⟩ := execute_inStep hR hscanned hnone'
          exact ⟨houtcome, hR.flush hrelated⟩

theorem executeLine_invokes {b : Builtin} {o : Output} {files : FileTree}
    (hline : Command.ofLine line = .ok (some c)) (h : sh.Invokes s c b o files) :
    sh.executeLine line s
      = ((Session.settle ((s.opened line c files).perform o (sh.action s c b files))).1,
        (Session.settle ((s.opened line c files).perform o (sh.action s c b files))).2.flush) :=
  executeLine_of_execute hline (execute_invokes (h.scanned line))

/-- A line whose builtin writes its output alike in both runs ends alike and leaves them related. -/
theorem executeLine_invokes_inStep (hR : Session.InStep R) (h : R s t) {b : Builtin} {o : Output}
    {files : FileTree} (hline : Command.ofLine line = .ok (some c))
    (hb : sh.Invokes s c b o files)
    (hfault : ((s.opened line c files).emitLines o (sh.action s c b files).lines).1
      = ((t.opened line c files).emitLines o (sh.action s c b files).lines).1)
    (hlines : R ((s.opened line c files).emitLines o (sh.action s c b files).lines).2
      ((t.opened line c files).emitLines o (sh.action s c b files).lines).2) :
    (sh.executeLine line s).1 = (sh.executeLine line t).1
      ∧ R (sh.executeLine line s).2 (sh.executeLine line t).2 := by
  have hstore := hR.store h
  obtain ⟨hresult, hperform⟩ := hR.perform hfault hlines
  obtain ⟨houtcome, hsettle⟩ := hR.settle hresult hperform
  rw [executeLine_invokes hline hb, executeLine_invokes hline (hb.of_store hstore),
    ← action_of_store hstore]
  exact ⟨houtcome, hR.flush hsettle⟩

/-- What every line keeps of two sessions, every run keeps. -/
theorem run_related (hline : ∀ {s t : Session} (line : Text), R s t →
    R (sh.executeLine line s).2 (sh.executeLine line t).2) (h : R s t) (lines : List Text) :
    R (sh.run s lines) (sh.run t lines) := by
  induction lines generalizing s t with
  | nil => exact h
  | cons line lines ih => exact ih (hline line h)

end Shell
end LineShell
