import LineShell.Proofs.Builtin.Results
import LineShell.Proofs.FileTree.Ways
import LineShell.Proofs.Session.Frame
import LineShell.Proofs.Session.Streams
import LineShell.Proofs.Shell.Execute

/-!
# Redirected builtins

A builtin whose output goes to a file is compared with the same builtin whose output goes to the
shell's stream (`Command.plain`), from the same session. The file is made or emptied before the
builtin acts, so the builtin sees other files than it would see otherwise. As they have the same
kinds, it acts alike nonetheless (`action_of_sameKinds`), and what it prints only takes another way
(`printsInto_of_same`): the file ends up with what the stream would have got.

For `cd` this holds only up to the reason of a failure (`cd_of_sameKinds`): the file that was just
made may be where `cd` is told to go, and what was missing before is then no directory.
-/

namespace LineShell

/-- The command without its target. -/
def Command.plain (c : Command) : Command := { c with target := none }

namespace Session

/-! ## Settling -/

/-- The outcome of a builtin by its result. -/
def outcomeOf : Except Diagnostic Outcome → Outcome
  | .ok outcome => outcome
  | .error _ => .proceed Status.failure

variable {s t : Session} {result : Except Diagnostic Outcome}

theorem outcome_settle : (settle (result, s)).1 = outcomeOf result := by
  cases result <;> rfl

theorem store_settle : (settle (result, s)).2.store = s.store := by
  cases result with
  | ok outcome => rfl
  | error d => exact s.store_report d

theorem cwd_settle {o : Output} {lines : List Text} {a : Action} :
    (settle (result, (s.emitLines o lines).2.conclude a)).2.cwd = a.moveTo.getD s.cwd := by
  rw [cwd_eq store_settle]
  refine (cwd_conclude _ a).trans ?_
  rw [cwd_emitLines]

theorem outSide_settle : (settle (result, s)).2.outSide = s.outSide := by
  cases result with
  | ok outcome => rfl
  | error d => exact s.outSide_report d

theorem errSide_settle_congr (h : s.errSide = t.errSide) :
    (settle (result, s)).2.errSide = (settle (result, t)).2.errSide := by
  cases result with
  | ok outcome => exact h
  | error d => exact errSide_report_congr h d

end Session

namespace Shell

variable {sh : Shell} {s : Session} {c : Command} {b : Builtin} {p : Text} {names : Names}
  {files : FileTree}

/-! ## Both runs -/

theorem execute_plain (hb : sh.builtins.get? c.name = some b) (hout : s.out.TakesAll) :
    sh.execute c.plain s = Session.settle ((sh.action s c b s.files).result,
      ((s.directed c.plain s.files).emitLines .inherit (sh.action s c b s.files).lines).2.conclude
        (sh.action s c b s.files)) := by
  have hinvokes : sh.Invokes s c.plain b .inherit s.files := ⟨hb, rfl⟩
  rw [execute_invokes hinvokes]
  exact congrArg Session.settle
    (Session.perform_of_takesAll (s := s.directed c.plain s.files) hout _)

theorem execute_redirected (hb : sh.builtins.get? c.name = some b) (htarget : c.target = some p)
    (hopen : s.files.create s.cwd p = .ok (.file names, files)) :
    sh.execute c s = Session.settle ((sh.action s c b files).result,
      ((s.directed c files).emitLines (.file (.file names))
        (sh.action s c b files).lines).2.conclude (sh.action s c b files)) := by
  have hinvokes : sh.Invokes s c b (.file (.file names)) files := by
    refine ⟨hb, ?_⟩
    rw [htarget, FileTree.openTarget, hopen]
  rw [execute_invokes hinvokes]
  exact congrArg Session.settle
    (Session.perform_of_bytes? (s := s.directed c files) (FileTree.bytes?_create hopen) _)

theorem plain_run (hb : sh.builtins.get? c.name = some b) (hout : s.out.TakesAll) :
    (sh.execute c.plain s).1 = Session.outcomeOf (sh.action s c b s.files).result
      ∧ (sh.execute c.plain s).2.cwd = (sh.action s c b s.files).moveTo.getD s.cwd
      ∧ (sh.execute c.plain s).2.printed
        = s.printed ++ (sh.action s c b s.files).lines.flatMap Line.ofText := by
  have hprinted := Session.printed_emitLines (s := s.directed c.plain s.files) hout
    (sh.action s c b s.files).lines
  rw [execute_plain hb hout]
  refine ⟨Session.outcome_settle, Session.cwd_settle, ?_⟩
  rw [Session.printed_of_outSide Session.outSide_settle,
    Session.printed_of_outSide (Session.outSide_conclude _ _)]
  exact hprinted.2

theorem redirected_run (hb : sh.builtins.get? c.name = some b) (htarget : c.target = some p)
    (hopen : s.files.create s.cwd p = .ok (.file names, files)) :
    (sh.execute c s).1 = Session.outcomeOf (sh.action s c b files).result
      ∧ (sh.execute c s).2.cwd = (sh.action s c b files).moveTo.getD s.cwd
      ∧ (sh.execute c s).2.files.bytes? names
        = some ((sh.action s c b files).lines.flatMap Line.ofText)
      ∧ (sh.execute c s).2.outSide = s.outSide := by
  have hbytes := Session.bytes?_emitLines (s := s.directed c files) (FileTree.bytes?_create hopen)
    (sh.action s c b files).lines
  rw [execute_redirected hb htarget hopen]
  refine ⟨Session.outcome_settle, Session.cwd_settle, ?_, ?_⟩
  · rw [Session.files_eq Session.store_settle]
    refine (congrArg (fun t : FileTree => t.bytes? names) (Session.files_conclude _ _)).trans ?_
    exact hbytes.2
  · rw [Session.outSide_settle, Session.outSide_conclude, Session.outSide_emitLines_file]
    rfl

theorem errSide_redirected (hb : sh.builtins.get? c.name = some b) (htarget : c.target = some p)
    (hopen : s.files.create s.cwd p = .ok (.file names, files)) (hout : s.out.TakesAll)
    (haction : sh.action s c b files = sh.action s c b s.files) :
    (sh.execute c s).2.errSide = (sh.execute c.plain s).2.errSide := by
  rw [execute_redirected hb htarget hopen, execute_plain hb hout, haction]
  refine Session.errSide_settle_congr (Session.errSide_conclude_congr ?_ _)
  rw [Session.errSide_emitLines, Session.errSide_emitLines]
  rfl

/-! ## What builtins see -/

theorem meaning_of_sameKinds {env : Environment} {t t' : FileTree} {cwd : Place}
    {isBuiltin : Text → Bool} (h : FileTree.SameKinds t t') (name : Text) :
    Builtin.meaning ⟨env, t', cwd, isBuiltin⟩ name
      = Builtin.meaning ⟨env, t, cwd, isBuiltin⟩ name := by
  simp only [Builtin.meaning, Environment.locate, FileTree.locate_of_sameKinds h]

theorem action_of_sameKinds (hb : b = Builtin.echo ∨ b = Builtin.pwd ∨ b = Builtin.type)
    (h : FileTree.SameKinds s.files files) : sh.action s c b files = sh.action s c b s.files := by
  rcases hb with rfl | rfl | rfl
  · rfl
  · rfl
  · simp only [action, Builtin.type, meaning_of_sameKinds h]

theorem cd_of_sameKinds (sh : Shell) (c : Command) (h : FileTree.SameKinds s.files files) :
    Session.outcomeOf (sh.action s c Builtin.cd files).result
        = Session.outcomeOf (sh.action s c Builtin.cd s.files).result
      ∧ (sh.action s c Builtin.cd files).moveTo = (sh.action s c Builtin.cd s.files).moveTo := by
  cases hargs : c.args with
  | nil => simp [action, Builtin.cd, hargs]
  | cons arg args =>
      have hsame := fun place =>
        FileTree.directory_of_sameKinds h s.cwd place (sh.env.expandTilde arg)
      simp only [action, Builtin.cd, hargs]
      cases hdir : s.files.directory s.cwd (sh.env.expandTilde arg) with
      | ok place =>
          rw [(hsame place).mpr hdir]
          exact ⟨rfl, rfl⟩
      | error e =>
          cases hdir' : files.directory s.cwd (sh.env.expandTilde arg) with
          | ok place => cases ((hsame place).mp hdir').symm.trans hdir
          | error e' => exact ⟨rfl, rfl⟩

/-! ## Redirected and plain -/

/-- The redirected command ends as the plain one does, and its file holds what the plain one
prints. -/
structure PrintsInto (sh : Shell) (s : Session) (c : Command) (names : Names) : Prop where
  outcome : (sh.execute c s).1 = (sh.execute c.plain s).1
  stderr : (sh.execute c s).2.errSide = (sh.execute c.plain s).2.errSide
  content : ∃ bs, (sh.execute c.plain s).2.printed = s.printed ++ bs
    ∧ (sh.execute c s).2.files.bytes? names = some bs
  stdout : (sh.execute c s).2.outSide = s.outSide

/-- The redirected command ends and moves as the plain one does, and its file is empty. -/
structure LeavesEmpty (sh : Shell) (s : Session) (c : Command) (names : Names) : Prop where
  outcome : (sh.execute c s).1 = (sh.execute c.plain s).1
  cwd : (sh.execute c s).2.cwd = (sh.execute c.plain s).2.cwd
  content : (sh.execute c s).2.files.bytes? names = some []

theorem printsInto_of_same (hb : sh.builtins.get? c.name = some b) (htarget : c.target = some p)
    (hopen : s.files.create s.cwd p = .ok (.file names, files)) (hout : s.out.TakesAll)
    (haction : sh.action s c b files = sh.action s c b s.files) : sh.PrintsInto s c names := by
  obtain ⟨houtcome, -, hprinted⟩ := plain_run (c := c) hb hout
  obtain ⟨houtcome', -, hbytes, hside⟩ := redirected_run hb htarget hopen
  rw [haction] at houtcome' hbytes
  exact ⟨houtcome'.trans houtcome.symm, errSide_redirected hb htarget hopen hout haction,
    ⟨_, hprinted, hbytes⟩, hside⟩

theorem leavesEmpty_of_silent (hb : sh.builtins.get? c.name = some b)
    (htarget : c.target = some p) (hopen : s.files.create s.cwd p = .ok (.file names, files))
    (hout : s.out.TakesAll) (hlines : (sh.action s c b files).lines = [])
    (hresult : Session.outcomeOf (sh.action s c b files).result
      = Session.outcomeOf (sh.action s c b s.files).result)
    (hmove : (sh.action s c b files).moveTo = (sh.action s c b s.files).moveTo) :
    sh.LeavesEmpty s c names := by
  obtain ⟨houtcome, hcwd, -⟩ := plain_run (c := c) hb hout
  obtain ⟨houtcome', hcwd', hbytes, -⟩ := redirected_run hb htarget hopen
  rw [hresult] at houtcome'
  rw [hmove] at hcwd'
  rw [hlines] at hbytes
  exact ⟨houtcome'.trans houtcome.symm, hcwd'.trans hcwd.symm, hbytes⟩

/-- What becomes of a builtin whose target opens as a file: `echo`, `pwd` and `type` print into the
file what they would have printed, and `cd` and `exit` leave it empty. -/
theorem redirected_builtin (hb : sh.builtins.get? c.name = some b) (htarget : c.target = some p)
    (hopen : s.files.create s.cwd p = .ok (.file names, files)) (hout : s.out.TakesAll) :
    (b = Builtin.echo ∨ b = Builtin.pwd ∨ b = Builtin.type → sh.PrintsInto s c names)
      ∧ (b = Builtin.cd ∨ b = Builtin.exit → sh.LeavesEmpty s c names) := by
  have hkinds := FileTree.sameKinds_create hopen
  constructor
  · intro hprints
    exact printsInto_of_same hb htarget hopen hout (action_of_sameKinds hprints hkinds)
  · rintro (rfl | rfl)
    · obtain ⟨hresult, hmove⟩ := cd_of_sameKinds sh c hkinds
      exact leavesEmpty_of_silent hb htarget hopen hout (Builtin.cd_lines _ _) hresult hmove
    · exact leavesEmpty_of_silent hb htarget hopen hout (Builtin.exit_lines _ _) rfl rfl

/-- A file `f` that holds the bytes, and a link `l` to it. -/
def linkedFile (bs : Bytes) : FileTree :=
  ⟨[(.ofText ['f'], .file ⟨.bytes bs, 0o644⟩), (.ofText ['l'], .link (Utf8.encode ['f']))]⟩

/-- An `echo` into a link to a file that holds more than what is printed. -/
theorem redirected_builtin_throughLink :
    ({} : Shell).builtins.get? "echo".toList = some Builtin.echo
      ∧ (linkedFile [65, 66, 67]).create .root ['l']
        = .ok (.file (.ofText ['f']), linkedFile [])
      ∧ ({ files := linkedFile [65, 66, 67] } : Session).out.TakesAll
      ∧ (execute {} ⟨"echo".toList, [['x']], some ['l']⟩
          { files := linkedFile [65, 66, 67] }).2.files.bytes? (.ofText ['f'])
        = some [120, 10] := by
  have hb : ({} : Shell).builtins.get?
      (⟨"echo".toList, [['x']], some ['l']⟩ : Command).name = some Builtin.echo := rfl
  have hopen : (linkedFile [65, 66, 67]).create .root ['l']
      = .ok (.file (.ofText ['f']), linkedFile []) := by
    decide +kernel
  have hout : ({ files := linkedFile [65, 66, 67] } : Session).out.TakesAll := by
    rintro f ⟨⟩
  have hprints := (redirected_builtin (s := { files := linkedFile [65, 66, 67] }) hb rfl hopen
    hout).1 (Or.inl rfl)
  obtain ⟨bs, hprinted, hbytes⟩ := hprints.content
  cases hprinted
  exact ⟨hb, hopen, hout, hbytes⟩

end Shell
end LineShell
