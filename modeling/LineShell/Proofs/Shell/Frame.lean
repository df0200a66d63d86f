import LineShell.Proofs.Builtin.Results
import LineShell.Proofs.Command.Parts
import LineShell.Proofs.Session.Frame
import LineShell.Proofs.Shell.Course

/-!
# What a line leaves alone

A line changes no entry of the files but the one that its last target leads to from the working
directory before it, and that one only if its command is known and the target can be opened
(`files_of_course`). It moves only by a `cd` that succeeds (`cwd_of_course`). Together these are the
frame of a line (`LineFrame`), which holds for every line of every run; and an entry that no line of
a run touches is the same after the run as before it (`get?_run`).
-/

namespace LineShell

theorem FileTree.frames_openTarget {t t' : FileTree} {cwd : Place} {target : Option Text}
    {o : Output} (h : t.openTarget cwd target = .ok (o, t')) : o.Frames t t' := by
  cases target with
  | none =>
      cases h
      exact rfl
  | some p =>
      rw [openTarget] at h
      split at h
      · cases h
      · next hcreate =>
          cases h
          exact sameExcept_create hcreate

namespace Shell

variable {sh : Shell} {s s' : Session} {line : Text} {o : Outcome}

/-! ## The store after a line -/

/-- Reports and flushes aside, only a builtin that acts and a program that is launched matter. -/
theorem store_of_course (hkeeps : sh.KeepsFiles) (h : sh.Course s line o s') :
    s'.store = s.store
      ∨ (∃ c b output files result t, Command.ofLine line = .ok (some c)
        ∧ sh.Invokes s c b output files
        ∧ (s.opened line c files).perform output (sh.action s c b files) = (result, t)
        ∧ (∀ d, result = .error d → o = .proceed Status.failure)
        ∧ (∀ outcome, result = .ok outcome → o = outcome) ∧ s'.store = t.store)
      ∨ ∃ c path output files, Command.ofLine line = .ok (some c)
        ∧ sh.Launches s c path output files ∧ output.Frames files s'.files ∧ s'.cwd = s.cwd := by
  cases h with
  | rejected => exact Or.inl (by rw [Session.store_flush, Session.store_report]; rfl)
  | blank => exact Or.inl (by rw [Session.store_flush]; rfl)
  | unknown => exact Or.inl (by rw [Session.store_flush, Session.store_report]; rfl)
  | unopened => exact Or.inl (by rw [Session.store_flush, Session.store_report]; rfl)
  | failed hline hinvokes hact =>
      refine Or.inr (Or.inl ⟨_, _, _, _, _, _, hline, hinvokes, hact, fun _ _ => rfl, ?_, ?_⟩)
      · rintro outcome ⟨⟩
      · rw [Session.store_flush, Session.store_report]
  | acted hline hinvokes hact =>
      refine Or.inr (Or.inl ⟨_, _, _, _, _, _, hline, hinvokes, hact, ?_, ?_, ?_⟩)
      · rintro d ⟨⟩
      · rintro outcome ⟨⟩
        rfl
      · rw [Session.store_flush]
  | @unstarted c path output files fault hline hlaunches hstart =>
      have hstore : ((s.readied line c path files).report (.start c.name fault)).flush.store
          = ⟨files, s.cwd, s.input⟩ := by
        rw [Session.store_flush, Session.store_report, Session.store_readied]
      refine Or.inr (Or.inr ⟨c, path, output, files, hline, hlaunches, ?_, ?_⟩)
      · rw [Session.files_eq hstore]
        exact Output.Frames.refl output files
      · exact Session.cwd_eq hstore
  | @ended c path output files e hline hlaunches hstart =>
      have hkeeps : e.KeepsFiles := effect_of_attempt hkeeps hstart
      have hready := s.store_readied line c path files
      have hstore := (((s.readied line c path files).absorb output e).finish c.name
        e.ending).store_flush.trans (Session.store_finish _ c.name e.ending)
      refine Or.inr (Or.inr ⟨c, path, output, files, hline, hlaunches, ?_, ?_⟩)
      · have habsorb := Session.frames_absorb hkeeps (s.readied line c path files) output
        rw [Session.files_eq hready] at habsorb
        rw [Session.files_eq hstore]
        exact habsorb
      · have habsorb := Session.cwd_absorb hkeeps (s.readied line c path files) output
        exact (Session.cwd_eq hstore).trans (habsorb.trans (Session.cwd_eq hready))

/-! ## Files -/

/-- The line runs a command that the shell knows, with a target that is opened. -/
def Redirects (sh : Shell) (s : Session) (line : Text) (p : Text) (d : Destination) : Prop :=
  ∃ c files, Command.ofLine line = .ok (some c) ∧ sh.Knows s c.name ∧ c.target = some p
    ∧ s.files.create s.cwd p = .ok (d, files)

theorem files_of_output {c : Command} {output : Output} {files : FileTree}
    (hline : Command.ofLine line = .ok (some c)) (hknows : sh.Knows s c.name)
    (hopen : s.files.openTarget s.cwd c.target = .ok (output, files))
    (hframes : output.Frames files s'.files) :
    s'.files = s.files
      ∨ ∃ p d, sh.Redirects s line p d ∧ s.files.SameExcept d.names? s'.files := by
  have hframes := (FileTree.frames_openTarget hopen).trans hframes
  cases htarget : c.target with
  | none =>
      rw [htarget] at hopen
      cases hopen
      exact Or.inl hframes
  | some p =>
      rw [htarget, FileTree.openTarget] at hopen
      split at hopen
      · cases hopen
      · next d files hcreate =>
          cases hopen
          exact Or.inr ⟨p, d, ⟨c, files, hline, hknows, htarget, hcreate⟩, hframes⟩

theorem files_of_course (hkeeps : sh.KeepsFiles) (h : sh.Course s line o s') :
    s'.files = s.files
      ∨ ∃ p d, sh.Redirects s line p d ∧ s.files.SameExcept d.names? s'.files := by
  rcases store_of_course hkeeps h with hstore
    | ⟨c, b, output, files, result, t, hline, hinvokes, hact, -, -, hstore⟩
    | ⟨c, path, output, files, hline, hlaunches, hframes, -⟩
  · exact Or.inl (Session.files_eq hstore)
  · have hfiles : s'.files = t.files := Session.files_eq hstore
    refine files_of_output hline (knows_of_builtin hinvokes.builtin) hinvokes.opened ?_
    rw [hfiles]
    exact Session.frames_perform hact
  · exact files_of_output hline (knows_of_program hlaunches.program) hlaunches.opened hframes

/-! ## The entry that a line touches -/

/-- The line runs a command that the shell knows, with a target that leads to the place. -/
def Touches (sh : Shell) (s : Session) (line : Text) (q : Names) : Prop :=
  ∃ c p, Command.ofLine line = .ok (some c) ∧ sh.Knows s c.name ∧ c.target = some p
    ∧ s.files.outputPlace? s.cwd p = some q

theorem touches_of_redirects {p : Text} {d : Destination} {q : Names}
    (h : sh.Redirects s line p d) (hq : d.names? = some q) : sh.Touches s line q := by
  obtain ⟨c, files, hline, hknows, htarget, hcreate⟩ := h
  exact ⟨c, p, hline, hknows, htarget, (FileTree.create_place hcreate).symm.trans hq⟩

/-- What a line does not touch stays. -/
theorem get?_of_not_touches (hkeeps : sh.KeepsFiles) {q : Names} (h : ¬ sh.Touches s line q) :
    (sh.executeLine line s).2.files.get? q = s.files.get? q := by
  rcases files_of_course hkeeps (sh.executeLine_course s line) with
    hfiles | ⟨p, d, hredirects, hsame⟩
  · rw [hfiles]
  · exact hsame q fun hq => h (touches_of_redirects hredirects hq)

/-- A line touches files and free places only. -/
theorem get?_of_touches {q : Names} (h : sh.Touches s line q) :
    s.files.get? q = none ∨ ∃ f, s.files.get? q = some (.file f) := by
  obtain ⟨c, p, -, -, -, hplace⟩ := h
  exact FileTree.get?_outputPlace hplace

/-! ## The working directory -/

/-- The line runs a `cd` whose output is opened, and which leads to the place. -/
def Moves (sh : Shell) (s : Session) (line : Text) (place : Place) : Prop :=
  ∃ c arg output files, Command.ofLine line = .ok (some c) ∧ c.name = "cd".toList
    ∧ s.files.openTarget s.cwd c.target = .ok (output, files) ∧ arg ∈ c.args.head?
    ∧ files.directory s.cwd (sh.env.expandTilde arg) = .ok place

theorem cwd_of_course (hstd : sh.builtins = .standard) (hkeeps : sh.KeepsFiles)
    (h : sh.Course s line o s') :
    s'.cwd = s.cwd ∨ sh.Moves s line s'.cwd ∧ o = .proceed 0 := by
  rcases store_of_course hkeeps h with hstore
    | ⟨c, b, output, files, result, t, hline, hinvokes, hact, herror, hok, hstore⟩
    | ⟨c, path, output, files, hline, hlaunches, -, hcwd⟩
  · exact Or.inl (Session.cwd_eq hstore)
  · have hb := hinvokes.standard hstd
    have hcwd : s'.cwd = t.cwd := Session.cwd_eq hstore
    rw [hcwd]
    rcases Session.cwd_perform hact with hstays | ⟨hmove, hresult⟩
    · exact Or.inl hstays
    · obtain ⟨hname, arg, harg, hdirectory, hend⟩ := Builtin.moveTo_of_standard hb hmove
      exact Or.inr ⟨⟨c, arg, output, files, hline, hname, hinvokes.opened, harg, hdirectory⟩,
        hok _ (hresult.trans hend)⟩
  · exact Or.inl hcwd

/-! ## The frame of a line -/

/-- The line is no command, or it is one that opens no file. -/
inductive Idle (sh : Shell) (s : Session) (line : Text) : Prop
  | rejected {e : SyntaxError} (hline : Command.ofLine line = .error e)
  /-- Nothing stands on the line but blanks and redirects. -/
  | wordless (hline : Command.ofLine line = .ok none)
  | unknown {c : Command} (hline : Command.ofLine line = .ok (some c))
      (hknows : ¬ sh.Knows s c.name)
  | undirected {c : Command} (hline : Command.ofLine line = .ok (some c))
      (htarget : c.target = none)
  | unopened {c : Command} {p : Text} {fault : IoError}
      (hline : Command.ofLine line = .ok (some c)) (htarget : c.target = some p)
      (hcreate : s.files.create s.cwd p = .error fault)

theorem not_redirects_of_idle (h : sh.Idle s line) (p : Text) (d : Destination) :
    ¬ sh.Redirects s line p d := by
  rintro ⟨c, files, hline', hknows', htarget', hcreate'⟩
  cases h with
  | rejected hline => cases hline.symm.trans hline'
  | wordless hline => cases hline.symm.trans hline'
  | unknown hline hknows =>
      cases hline.symm.trans hline'
      exact hknows hknows'
  | undirected hline htarget =>
      cases hline.symm.trans hline'
      cases htarget.symm.trans htarget'
  | unopened hline htarget hcreate =>
      cases hline.symm.trans hline'
      cases htarget.symm.trans htarget'
      cases hcreate.symm.trans hcreate'

theorem files_of_idle (hkeeps : sh.KeepsFiles) (h : sh.Idle s line) :
    (sh.executeLine line s).2.files = s.files := by
  rcases files_of_course hkeeps (sh.executeLine_course s line) with hfiles | ⟨p, d, hredirects, -⟩
  · exact hfiles
  · exact absurd hredirects (not_redirects_of_idle h p d)

/-- What a line changes of the files and of the working directory, by what it was before. -/
structure LineFrame (sh : Shell) (s : Session) (line : Text) : Prop where
  idle : sh.Idle s line → (sh.executeLine line s).2.files = s.files
  last : ∀ c, Command.ofLine line = .ok (some c) →
    c.target = (Command.targets (Token.tokenize line)).getLast?
  target : ∀ c p, Command.ofLine line = .ok (some c) → c.target = some p →
    s.files.SameExcept (s.files.outputPlace? s.cwd p) (sh.executeLine line s).2.files
  links : ∀ q path, s.files.get? q = some (.link path) →
    (sh.executeLine line s).2.files.get? q = some (.link path)
  overridden : ∀ p ∈ (Command.targets (Token.tokenize line)).dropLast, ∀ q,
    s.files.outputPlace? s.cwd p = some q →
    (∀ p' ∈ (Command.targets (Token.tokenize line)).getLast?,
      s.files.outputPlace? s.cwd p' ≠ some q) →
    (sh.executeLine line s).2.files.get? q = s.files.get? q
  cwd : (sh.executeLine line s).2.cwd ≠ s.cwd →
    sh.Moves s line (sh.executeLine line s).2.cwd ∧ (sh.executeLine line s).1 = .proceed 0
  error : (sh.executeLine line s).1 ≠ .proceed 0 → (sh.executeLine line s).2.cwd = s.cwd

theorem sameExcept_target (hkeeps : sh.KeepsFiles) {c : Command} {p : Text}
    (hline : Command.ofLine line = .ok (some c))
    (htarget : c.target = some p) :
    s.files.SameExcept (s.files.outputPlace? s.cwd p) (sh.executeLine line s).2.files := by
  intro q hq
  refine get?_of_not_touches hkeeps ?_
  rintro ⟨c', p', hline', -, htarget', hplace⟩
  cases hline.symm.trans hline'
  cases htarget.symm.trans htarget'
  exact hq hplace

theorem lineFrame (hstd : sh.builtins = .standard) (hkeeps : sh.KeepsFiles) (s : Session)
    (line : Text) : sh.LineFrame s line where
  idle := files_of_idle hkeeps
  last _ := Command.target_of_ofLine
  target _ _ := sameExcept_target hkeeps
  links := by
    intro q path hlink
    rw [get?_of_not_touches hkeeps, hlink]
    intro htouches
    rcases get?_of_touches htouches with hnone | ⟨f, hfile⟩
    · cases hnone.symm.trans hlink
    · cases hfile.symm.trans hlink
  overridden := by
    intro p hp q hplace hlast
    refine get?_of_not_touches hkeeps ?_
    rintro ⟨c, p', hline, -, htarget, hplace'⟩
    exact hlast p' ((Command.target_of_ofLine hline).symm.trans htarget) hplace'
  cwd := by
    intro hmoved
    exact (cwd_of_course hstd hkeeps (sh.executeLine_course s line)).resolve_left hmoved
  error := by
    intro ho
    rcases cwd_of_course hstd hkeeps (sh.executeLine_course s line) with hstays | ⟨-, hzero⟩
    · exact hstays
    · exact absurd hzero ho

/-! ## The frame of a run -/

/-- No line of a run touches the place. -/
def LeavesAlone (sh : Shell) (s : Session) (lines : List Text) (q : Names) : Prop :=
  ∀ before line after, lines = before ++ line :: after → ¬ sh.Touches (sh.run s before) line q

theorem get?_run (hkeeps : sh.KeepsFiles) {lines : List Text} {q : Names}
    (h : sh.LeavesAlone s lines q) :
    (sh.run s lines).files.get? q = s.files.get? q := by
  induction lines generalizing s with
  | nil => rfl
  | cons line lines ih =>
      have hline : ¬ sh.Touches s line q := h [] line lines rfl
      have hlines : sh.LeavesAlone (sh.executeLine line s).2 lines q := by
        intro before next after heq
        exact h (line :: before) next after (by rw [heq, List.cons_append])
      exact (ih hlines).trans (get?_of_not_touches hkeeps hline)

/-- As long as programs change no files themselves, every line of every run keeps within its frame,
and a run changes no entry that none of its lines touches. -/
theorem lineFrame_run (hstd : sh.builtins = .standard) (hkeeps : sh.KeepsFiles) (s : Session)
    (lines : List Text) :
    (∀ line, sh.LineFrame (sh.run s lines) line)
      ∧ ∀ q, sh.LeavesAlone s lines q → (sh.run s lines).files.get? q = s.files.get? q :=
  ⟨fun line => lineFrame hstd hkeeps (sh.run s lines) line, fun _ => get?_run hkeeps⟩

/-- An `echo` with two targets makes the last only. -/
theorem lineFrame_run_overridden :
    ({} : Shell).builtins = .standard ∧ ({} : Shell).KeepsFiles
      ∧ (∀ line, LineFrame {} (run {} {} [['e', 'c', 'h', 'o', '>', 'b', '>', 'a']]) line)
      ∧ (run {} {} [['e', 'c', 'h', 'o', '>', 'b', '>', 'a']]).files.get? (.ofText ['b']) = none
      ∧ (run {} {} [['e', 'c', 'h', 'o', '>', 'b', '>', 'a']]).files.get? (.ofText ['a'])
        ≠ none := by
  have hline : Command.ofLine ['e', 'c', 'h', 'o', '>', 'b', '>', 'a']
      = .ok (some ⟨['e', 'c', 'h', 'o'], [], some ['a']⟩) := rfl
  have hleaves : LeavesAlone {} {} [['e', 'c', 'h', 'o', '>', 'b', '>', 'a']]
      (.ofText ['b']) := by
    intro before line after heq
    cases before with
    | nil =>
        cases heq
        rintro ⟨c, p, hline', -, htarget, hplace⟩
        cases hline.symm.trans hline'
        cases htarget
        exact absurd hplace (by decide)
    | cons first before => simp at heq
  have hstd : ({} : Shell).builtins = .standard := rfl
  have hkeeps : ({} : Shell).KeepsFiles := fun _ _ => Effect.keepsFiles_default
  have hrun := lineFrame_run hstd hkeeps {} [['e', 'c', 'h', 'o', '>', 'b', '>', 'a']]
  exact ⟨rfl, hkeeps, hrun.1, hrun.2 _ hleaves, by decide⟩

end Shell
end LineShell
