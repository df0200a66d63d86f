import LineShell.Proofs.Environment.Tilde
import LineShell.Proofs.FileTree.Directories
import LineShell.Proofs.Shell.Redirection
import LineShell.Proofs.Shell.Reporting
import LineShell.Proofs.Shell.Resolution

/-!
# There and back

A `cd` leads from an existing directory to an existing directory, and no other command leads
anywhere (`standsFirm_of_course`): so the working directory exists all through a run, if it does at
the start and programs change no files (`standsFirm_run`).

The path of an existing working directory is physical, and `pwd` prints it with replacement
characters for what is not UTF-8. So a `cd` to what it printed leads back there from everywhere, if
the path is UTF-8 (`locates_of_hasDir`), but not otherwise (`pwd_of_foreignName`). A `cd` that fails
changes nothing and says why (`refuses_of_error`). Both together are `cd_and_pwd_round_trip`.
-/

namespace LineShell

/-- Goes to the directory that the path leads to. -/
def Command.cd (p : Text) (args : List Text) : Command := ⟨"cd".toList, p :: args, none⟩

/-- Prints the working directory. -/
def Command.pwd (args : List Text) : Command := ⟨"pwd".toList, args, none⟩

theorem Environment.expandTilde_of_isAbsolute {p : Text} (h : Path.isAbsolute p = true)
    (env : Environment) : env.expandTilde p = p := by
  have hhead := Path.isAbsolute_iff.mp h
  refine expandTilde_of_not_hasTilde ?_ env
  rintro (rfl | ⟨rest, rfl⟩)
  · exact absurd hhead (by decide)
  · rw [List.head?_append] at hhead
    cases hhead

theorem FileTree.sameKinds_openTarget {t t' : FileTree} {cwd : Place} {target : Option Text}
    {o : Output} (h : t.openTarget cwd target = .ok (o, t')) : t.SameKinds t' := by
  cases target with
  | none =>
      cases h
      exact SameKinds.refl t
  | some p =>
      rw [openTarget] at h
      split at h
      · cases h
      · next hcreate =>
          cases h
          exact sameKinds_create hcreate

namespace Shell

variable {sh : Shell} {s s' : Session} {place : Place} {p q : Text}

/-! ## The working directory exists -/

/-- Every link of the files is sound, and the working directory exists. -/
structure StandsFirm (s : Session) : Prop where
  links : s.files.HasSoundLinks
  cwd : s.files.HasDir s.cwd

theorem hasDir_of_moves {line : Text} (h : StandsFirm s) (hmoves : sh.Moves s line place) :
    s.files.HasDir place := by
  obtain ⟨c, arg, output, files, -, -, hopen, -, hdirectory⟩ := hmoves
  have hkinds := FileTree.sameKinds_openTarget hopen
  exact FileTree.hasDir_of_directory h.links h.cwd
    ((FileTree.directory_of_sameKinds hkinds s.cwd place _).mp hdirectory)

theorem standsFirm_of_course (hstd : sh.builtins = .standard) (hkeeps : sh.KeepsFiles)
    {line : Text} {o : Outcome} (hcourse : sh.Course s line o s') (h : StandsFirm s) :
    StandsFirm s' := by
  have hkinds := steps_of_course Session.lineSteps_sameKinds (sameKinds_alter hkeeps) hcourse
  have hcwd : s.files.HasDir s'.cwd := by
    rcases cwd_of_course hstd hkeeps hcourse with hstays | ⟨hmoves, -⟩
    · rw [hstays]
      exact h.cwd
    · exact hasDir_of_moves h hmoves
  exact ⟨FileTree.hasSoundLinks_of_sameKinds hkinds h.links,
    FileTree.hasDir_of_sameKinds hkinds hcwd⟩

theorem standsFirm_run (hstd : sh.builtins = .standard) (hkeeps : sh.KeepsFiles)
    (h : StandsFirm s) (lines : List Text) : StandsFirm (sh.run s lines) :=
  run_keeps (standsFirm_of_course hstd hkeeps) h lines

/-! ## What the two commands do -/

/-- `pwd` prints the path, whatever its arguments. -/
def PwdPrints (sh : Shell) (s : Session) (q : Text) : Prop :=
  ∀ args, (sh.execute (.pwd args) s).1 = .proceed 0
    ∧ (sh.execute (.pwd args) s).2.printed = s.printed ++ Line.ofText q

theorem pwdPrints_of_path? (hstd : sh.builtins = .standard) (hout : s.out.TakesAll) {path : Bytes}
    (h : s.cwd.path? = some path) : sh.PwdPrints s (Utf8.decode path) := by
  intro args
  have hb : sh.builtins.get? (Command.pwd args).name = some Builtin.pwd := by rw [hstd]; rfl
  have haction : sh.action s (.pwd args) Builtin.pwd s.files
      = { lines := [Utf8.decode path], result := .ok (.proceed 0) } := by
    simp only [action, Builtin.pwd, h]
  obtain ⟨houtcome, -, hprinted⟩ := plain_run (c := .pwd args) (s := s) hb hout
  rw [haction] at houtcome hprinted
  refine ⟨houtcome, hprinted.trans ?_⟩
  rw [List.flatMap_cons, List.flatMap_nil, List.append_nil]

theorem invokes_cd (hstd : sh.builtins = .standard) (s : Session) (p : Text) (args : List Text) :
    sh.Invokes s (.cd p args) Builtin.cd .inherit s.files :=
  ⟨by rw [hstd]; rfl, rfl⟩

theorem execute_cd_ok (hstd : sh.builtins = .standard)
    (h : s.files.directory s.cwd (sh.env.expandTilde p) = .ok place) (args : List Text) :
    sh.execute (.cd p args) s = (.proceed 0, { s.takenUp (.cd p args) with cwd := place }) := by
  have haction : sh.action s (.cd p args) Builtin.cd s.files
      = { moveTo := some place, result := .ok (.proceed 0) } := by
    rw [action, Command.cd, Builtin.cd_act, h]
  rw [execute_invokes (invokes_cd hstd s p args), haction]
  rfl

theorem execute_cd_error (hstd : sh.builtins = .standard) {e : IoError}
    (h : s.files.directory s.cwd (sh.env.expandTilde p) = .error e) (args : List Text) :
    sh.execute (.cd p args) s = (.proceed Status.failure,
      (s.takenUp (.cd p args)).report (.directory (sh.env.expandTilde p) e)) := by
  have haction : sh.action s (.cd p args) Builtin.cd s.files
      = .fail (.directory (sh.env.expandTilde p) e) := by
    rw [action, Command.cd, Builtin.cd_act, h]
  rw [execute_invokes (invokes_cd hstd s p args), haction]
  rfl

/-! ## The way back -/

/-- From every working directory the path leads to where the session is: a `cd` to it succeeds, and
then `pwd` prints it again. -/
def LeadsBack (sh : Shell) (s : Session) (q : Text) : Prop :=
  ∀ (cwd : Place) (args : List Text), s.files.directory cwd q = .ok s.cwd
    ∧ (sh.execute (.cd q args) { s with cwd := cwd }).1 = .proceed 0
    ∧ (sh.execute (.cd q args) { s with cwd := cwd }).2.cwd = s.cwd
    ∧ sh.PwdPrints (sh.execute (.cd q args) { s with cwd := cwd }).2 q

/-- The working directory has a physical path, which `pwd` prints as far as it is UTF-8. If all of
it is, so that it is the encoding of some text, then `pwd` prints that text, and unless it is too
long for the system it leads back. -/
def Locates (sh : Shell) (s : Session) : Prop :=
  ∃ path, s.cwd.path? = some path ∧ s.files.IsPhysical path
    ∧ sh.PwdPrints s (Utf8.decode path)
    ∧ ∀ q, Utf8.encode q = path →
      sh.PwdPrints s q ∧ (path.length < Path.maxPath → sh.LeadsBack s q)

theorem leadsBack_of_path? (hstd : sh.builtins = .standard) (hout : s.out.TakesAll)
    (h : s.files.HasDir s.cwd) (hq : s.cwd.path? = some (Utf8.encode q))
    (hlength : (Utf8.encode q).length < Path.maxPath) : sh.LeadsBack s q := by
  intro cwd args
  have hback := FileTree.directory_of_path? hq h hlength cwd
  have habsolute : Path.isAbsolute q = true := by
    have hhead := (FileTree.isPhysical_ofNames h).absolute
    rw [← Option.some.inj (hq.symm.trans h.path?)] at hhead
    exact Path.head?_encode.mp hhead
  have hexpand := sh.env.expandTilde_of_isAbsolute habsolute
  have hcd := execute_cd_ok (s := { s with cwd := cwd }) (p := q) hstd
    (by rw [hexpand]; exact hback) args
  have hout' : (({ s with cwd := cwd } : Session).takenUp (.cd q args)).out.TakesAll := hout
  have hprints := pwdPrints_of_path?
    (s := { ({ s with cwd := cwd } : Session).takenUp (.cd q args) with cwd := s.cwd })
    hstd hout' hq
  rw [Utf8.decode_encode] at hprints
  rw [hcd]
  exact ⟨hback, rfl, rfl, hprints⟩

theorem locates_of_hasDir (hstd : sh.builtins = .standard) (hout : s.out.TakesAll)
    (h : s.files.HasDir s.cwd) : sh.Locates s := by
  have hprints := pwdPrints_of_path? hstd hout h.path?
  refine ⟨_, h.path?, FileTree.isPhysical_ofNames h, hprints, fun q hq => ⟨?_, fun hlength => ?_⟩⟩
  · rwa [← hq, Utf8.decode_encode] at hprints
  · exact leadsBack_of_path? hstd hout h (hq ▸ h.path?) (hq ▸ hlength)

/-! ## Failures -/

/-- Nothing has changed but the stream for diagnostics, which says why the path leads to no
directory. -/
structure Refuses (sh : Shell) (s : Session) (p : Text) (s' : Session) : Prop where
  cwd : s'.cwd = s.cwd
  pwd : ∃ q, sh.PwdPrints s q ∧ sh.PwdPrints s' q
  stdout : s'.outSide = s.outSide
  error : ∃ e, s.files.directory s.cwd (sh.env.expandTilde p) = .error e
    ∧ (s.err.TakesAll → s.ErrGrows s' []
      (Line.ofText ("cd: ".toList ++ sh.env.expandTilde p ++ ": ".toList ++ e.reason)))

theorem refuses_of_error (hstd : sh.builtins = .standard) (hout : s.out.TakesAll)
    (hcwd : s.files.HasDir s.cwd) {e : IoError}
    (h : s.files.directory s.cwd (sh.env.expandTilde p) = .error e) (args : List Text) :
    sh.Refuses s p (sh.execute (.cd p args) s).2 := by
  rw [execute_cd_error hstd h args]
  have hsame : ((s.takenUp (.cd p args)).report (.directory (sh.env.expandTilde p) e)).cwd
      = s.cwd := Session.cwd_eq (Session.store_report _ _)
  have hout' : ((s.takenUp (.cd p args)).report
      (.directory (sh.env.expandTilde p) e)).out.TakesAll := by
    rw [Session.out_report]
    exact hout
  refine ⟨hsame, ⟨_, pwdPrints_of_path? hstd hout hcwd.path?, ?_⟩,
    Session.outSide_report _ _, e, h, fun herr => ?_⟩
  · refine pwdPrints_of_path? hstd hout' ?_
    rw [hsame]
    exact hcwd.path?
  · have htext : (Diagnostic.directory (sh.env.expandTilde p) e).text
        = "cd: ".toList ++ sh.env.expandTilde p ++ ": ".toList ++ e.reason := by
      simp [Diagnostic.text, Diagnostic.about]
    rw [← htext]
    exact errGrows_takenUp_report herr _ _

/-! ## Round trips -/

/-- What a `cd` to a path does in a session: if it succeeds, the session is in the directory that
the expanded path leads to and `pwd` locates it; if it fails, the session is where it was. -/
structure RoundTrips (sh : Shell) (s : Session) (p : Text) (args : List Text) : Prop where
  located : sh.Locates s
  outcome : (sh.execute (.cd p args) s).1 = .proceed 0
    ∨ (sh.execute (.cd p args) s).1 = .proceed Status.failure
  succeeds : (sh.execute (.cd p args) s).1 = .proceed 0 →
    s.files.directory s.cwd (sh.env.expandTilde p) = .ok (sh.execute (.cd p args) s).2.cwd
      ∧ (sh.execute (.cd p args) s).2.files = s.files ∧ sh.Locates (sh.execute (.cd p args) s).2
  fails : (sh.execute (.cd p args) s).1 ≠ .proceed 0 →
    sh.Refuses s p (sh.execute (.cd p args) s).2

theorem roundTrips (hstd : sh.builtins = .standard) (hout : s.out.TakesAll) (h : StandsFirm s)
    (p : Text) (args : List Text) : sh.RoundTrips s p args := by
  have hlocated := locates_of_hasDir hstd hout h.cwd
  cases hdirectory : s.files.directory s.cwd (sh.env.expandTilde p) with
  | ok place =>
      have hcd := execute_cd_ok hstd hdirectory args
      have hdir := FileTree.hasDir_of_directory h.links h.cwd hdirectory
      refine ⟨hlocated, Or.inl (congrArg Prod.fst hcd), fun _ => ?_, fun hfails => ?_⟩
      · rw [hcd]
        exact ⟨hdirectory, rfl, locates_of_hasDir hstd hout hdir⟩
      · exact absurd (congrArg Prod.fst hcd) hfails
  | error e =>
      have hcd : (sh.execute (.cd p args) s).1 = .proceed Status.failure :=
        congrArg Prod.fst (execute_cd_error hstd hdirectory args)
      refine ⟨hlocated, Or.inr hcd, fun hok => ?_, fun _ => ?_⟩
      · exact absurd (hcd.symm.trans hok) (by decide)
      · exact refuses_of_error hstd hout h.cwd hdirectory args

/-- In every existing working directory `cd` and `pwd` go together: what `pwd` prints after a `cd`
names the directory that the `cd` led to, from everywhere, if it is the directory's path; and a `cd`
that fails leaves everything as it was. -/
theorem cd_and_pwd_round_trip (hstd : sh.builtins = .standard) (hout : s.out.TakesAll)
    (hlinks : s.files.HasSoundLinks) (hcwd : s.files.HasDir s.cwd) (p : Text)
    (args : List Text) : sh.RoundTrips s p args :=
  roundTrips hstd hout ⟨hlinks, hcwd⟩ p args

/-- Upwards from a home directory that is a link, from where the link leads. -/
theorem cd_and_pwd_round_trip_linkedHome :
    ({ env := .homeOnly } : Shell).builtins = .standard
      ∧ (run { env := .homeOnly } { files := Environment.linkedHome } ["cd ~".toList]).out.TakesAll
      ∧ StandsFirm (run { env := .homeOnly } { files := Environment.linkedHome } ["cd ~".toList])
      ∧ RoundTrips { env := .homeOnly }
        (run { env := .homeOnly } { files := Environment.linkedHome } ["cd ~".toList])
        "../x/.".toList []
      ∧ (execute { env := .homeOnly } (.cd "../x/.".toList [])
        (run { env := .homeOnly } { files := Environment.linkedHome } ["cd ~".toList])).2.cwd
        = ⟨.ofText "far/x".toList, 0⟩ := by
  have hkeeps : ({ env := .homeOnly } : Shell).KeepsFiles :=
    fun _ _ => Effect.keepsFiles_default
  have hout : ({ files := Environment.linkedHome } : Session).out.TakesAll := by
    rintro f ⟨⟩
  have hout' := Session.takesAll_of_faults hout (faults_of_course
    (executeLine_course { env := .homeOnly } { files := Environment.linkedHome } "cd ~".toList))
  have hlinks : Environment.linkedHome.HasSoundLinks :=
    FileTree.hasSoundLinks_of_entries (by decide +kernel)
  have hfirm : StandsFirm
      (run { env := .homeOnly } { files := Environment.linkedHome } ["cd ~".toList]) :=
    standsFirm_run rfl hkeeps ⟨hlinks, FileTree.hasDir_root Environment.linkedHome⟩ _
  exact ⟨rfl, hout', hfirm, cd_and_pwd_round_trip rfl hout' hfirm.links hfirm.cwd _ _,
    by decide +kernel⟩

/-- A directory whose name is the byte `0xFF`, and a link `l` to it. -/
def foreignName : FileTree :=
  ⟨[([[0xFF]], .dir), (.ofText ['l'], .link [0xFF])]⟩

/-- In a directory whose name is not UTF-8, reached through a link, what `pwd` prints leads nowhere.
And where the stream for regular output takes nothing, `pwd` prints nothing. -/
theorem pwd_of_foreignName :
    foreignName.HasSoundLinks ∧ foreignName.HasDir .root
      ∧ (execute {} (.cd ['l'] []) { files := foreignName }).1 = .proceed 0
      ∧ (execute {} (.pwd []) (execute {} (.cd ['l'] []) { files := foreignName }).2).2.printed
        = Line.ofText "/\uFFFD".toList
      ∧ (¬ ∃ q, PwdPrints {} (execute {} (.cd ['l'] []) { files := foreignName }).2 q
        ∧ LeadsBack {} (execute {} (.cd ['l'] []) { files := foreignName }).2 q)
      ∧ ¬ ∃ q, PwdPrints {} { out := .sink (.bounded 0 (.system .noSpace)) } q := by
  have hprinted : (execute {} (.pwd [])
        (execute {} (.cd ['l'] []) { files := foreignName }).2).2.printed
      = Line.ofText "/\uFFFD".toList := by
    decide +kernel
  refine ⟨FileTree.hasSoundLinks_of_entries (by decide +kernel), FileTree.hasDir_root _,
    by decide +kernel, hprinted, ?_, ?_⟩
  · rintro ⟨q, hprints, hback⟩
    have hline := (hprints []).2.symm.trans hprinted
    have hq : q = "/\uFFFD".toList := List.append_cancel_right (Utf8.encode_injective hline)
    have hfails : (execute {} (.cd "/\uFFFD".toList []) { files := foreignName }).1
        = .proceed Status.failure := by
      decide +kernel
    rw [hq] at hback
    cases hfails.symm.trans (hback .root []).2.1
  · rintro ⟨q, hprints⟩
    have hfails : (execute {} (.pwd []) { out := .sink (.bounded 0 (.system .noSpace)) }).1
        = .proceed Status.failure := by
      decide +kernel
    cases hfails.symm.trans (hprints []).1

end Shell
end LineShell
