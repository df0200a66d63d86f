import LineShell.Proofs.FileTree.Ways
import LineShell.Proofs.Path.Pieces
import LineShell.Proofs.Path.Spelling
import LineShell.Proofs.Shell.Frame
import Mathlib.Data.List.Find

/-!
# What names resolve to

A redirect makes, empties and fills files, in searched directories and at the far end of links as
well, but it never changes the kind of any place: so, as long as programs change no files
themselves, a path that is executable stays so, and no other becomes so (`sameKinds_of_reaches`). A
name then resolves to the same program in every state of a run, as long as it is looked up from the
same working directory (`locate_of_reaches`), and only a `cd` that succeeds changes that
(`cwd_run`).

From an absolute path every walk starts at the root. So a name that leads to absolute paths only,
either by itself or by the search path (`Environment.Anchors`), resolves alike from everywhere.
-/

namespace LineShell

/-! ## Absolute paths -/

/-- The name is used as it stands and is absolute, or it is searched for and each directory of the
search path is absolute. Empty entries of the search path do not count. -/
inductive Environment.Anchors (env : Environment) (name : Text) : Prop
  | absolute (h : Path.isAbsolute name = true)
  | searched {component : Text} (hsole : Path.soleComponent? name = some component)
      (hdirs : ∀ dir ∈ Text.split ':' env.searchPath, dir ≠ [] → Path.isAbsolute dir = true)

namespace FileTree

theorem isExecutable_of_isAbsolute {p : Text} (h : Path.isAbsolute p = true) (t : FileTree)
    (cwd cwd' : Place) : t.isExecutable cwd p = t.isExecutable cwd' p := by
  rw [isExecutable, isExecutable, resolve_eq, resolve_eq]
  simp only [h, if_true]

theorem isAbsolute_of_mem_candidates {searchPath name p : Text}
    (hdirs : ∀ dir ∈ Text.split ':' searchPath, dir ≠ [] → Path.isAbsolute dir = true)
    (hp : p ∈ candidates searchPath name) : Path.isAbsolute p = true := by
  rw [candidates, List.mem_map] at hp
  obtain ⟨dir, hdir, rfl⟩ := hp
  obtain ⟨hmem, hne⟩ := List.mem_filter.mp hdir
  exact Path.isAbsolute_append (hdirs dir hmem (of_decide_eq_true hne)) name

theorem search_of_isAbsolute {searchPath : Text}
    (hdirs : ∀ dir ∈ Text.split ':' searchPath, dir ≠ [] → Path.isAbsolute dir = true)
    (t : FileTree) (cwd cwd' : Place) (name : Text) :
    t.search cwd searchPath name = t.search cwd' searchPath name := by
  refine List.find?_congr ?_
  intro p hp
  exact isExecutable_of_isAbsolute (isAbsolute_of_mem_candidates hdirs hp) t cwd cwd'

end FileTree

theorem Environment.Anchors.locate_eq {env : Environment} {name : Text} (h : env.Anchors name)
    (t : FileTree) (cwd cwd' : Place) : env.locate t cwd name = env.locate t cwd' name := by
  rw [Environment.locate, Environment.locate, FileTree.locate, FileTree.locate]
  cases h with
  | absolute habsolute =>
      have hsole : Path.soleComponent? name = none := if_pos habsolute
      rw [hsole]
      simp only [FileTree.isExecutable_of_isAbsolute habsolute t cwd cwd']
  | searched hsole hdirs =>
      rw [hsole]
      exact FileTree.search_of_isAbsolute hdirs t cwd cwd' _

/-! ## Steps -/

namespace Session

theorem sameKinds_of_store {s s' : Session} (h : s'.store = s.store) :
    s.files.SameKinds s'.files := by
  rw [files_eq h]
  exact FileTree.SameKinds.refl s.files

theorem lineSteps_sameKinds : LineSteps fun s s' => s.files.SameKinds s'.files where
  refl s := FileTree.SameKinds.refl s.files
  trans := FileTree.SameKinds.trans
  writeOut s bs := sameKinds_of_store (s.store_writeOut bs)
  writeErr s bs := sameKinds_of_store (s.store_writeErr bs)
  write s := FileTree.sameKinds_write s.files
  move s _ := FileTree.SameKinds.refl s.files
  record s _ := FileTree.SameKinds.refl s.files
  syncOut s := sameKinds_of_store s.store_syncOut
  syncErr s := sameKinds_of_store s.store_syncErr
  create := FileTree.sameKinds_create
  take s _ := FileTree.SameKinds.refl s.files
  print s _ := FileTree.SameKinds.refl s.files
  complain s _ := FileTree.SameKinds.refl s.files

end Session

namespace Shell

variable {sh : Shell} {s t : Session} {lines : List Text}

/-! ## Runs -/

/-- The states that a run comes to with its lines done: the one after them, and those within any
next line once its output is open, whatever was written to it. -/
inductive Reaches (sh : Shell) (s : Session) (lines : List Text) : Session → Prop
  | after : Reaches sh s lines (sh.run s lines)
  | within {line : Text} {c : Command} {o : Output} {t : Session}
      (hline : Command.ofLine line = .ok (some c)) (hknows : sh.Knows (sh.run s lines) c.name)
      (hopen : (sh.run s lines).openOutput c.target = .ok (o, t)) (written : List Text) :
      Reaches sh s lines (t.emitLines o written).2

theorem sameKinds_alter (hkeeps : sh.KeepsFiles) (program : Nat) (launch : Launch) (s : Session) :
    s.files.SameKinds (s.alter (sh.programs program launch)).files := by
  rw [Session.alter_of_keepsFiles (hkeeps program launch)]
  exact FileTree.SameKinds.refl s.files

theorem sameKinds_run (hkeeps : sh.KeepsFiles) (s : Session) (lines : List Text) :
    s.files.SameKinds (sh.run s lines).files := by
  have hcourse : ∀ {t t' : Session} {line : Text} {o : Outcome}, sh.Course t line o t' →
      s.files.SameKinds t.files → s.files.SameKinds t'.files := by
    intro t t' line o h hkinds
    exact hkinds.trans (steps_of_course Session.lineSteps_sameKinds (sameKinds_alter hkeeps) h)
  exact run_keeps hcourse (FileTree.SameKinds.refl s.files) lines

theorem sameKinds_of_reaches (hkeeps : sh.KeepsFiles) (h : sh.Reaches s lines t) :
    s.files.SameKinds t.files := by
  have hrun := sameKinds_run hkeeps s lines
  cases h with
  | after => exact hrun
  | within hline hknows hopen written =>
      have hopened := hrun.trans (Session.lineSteps_sameKinds.openOutput hopen)
      exact hopened.trans (Session.lineSteps_sameKinds.emitLines _ written _)

/-! ## Changes of directory -/

/-- The line is a `cd` that succeeds. -/
def Relocates (sh : Shell) (s : Session) (line : Text) : Prop :=
  ∃ c, Command.ofLine line = .ok (some c) ∧ c.name = "cd".toList
    ∧ (sh.executeLine line s).1 = .proceed 0

/-- No line of a run is a `cd` that succeeds. -/
def StaysPut (sh : Shell) (s : Session) (lines : List Text) : Prop :=
  ∀ before line after, lines = before ++ line :: after → ¬ sh.Relocates (sh.run s before) line

theorem cwd_of_not_relocates (hstd : sh.builtins = .standard) (hkeeps : sh.KeepsFiles)
    {line : Text} (h : ¬ sh.Relocates s line) : (sh.executeLine line s).2.cwd = s.cwd := by
  rcases cwd_of_course hstd hkeeps (sh.executeLine_course s line) with hstays | ⟨hmoves, ho⟩
  · exact hstays
  · obtain ⟨c, arg, output, files, hline, hname, -⟩ := hmoves
    exact absurd ⟨c, hline, hname, ho⟩ h

theorem cwd_run (hstd : sh.builtins = .standard) (hkeeps : sh.KeepsFiles)
    (h : sh.StaysPut s lines) : (sh.run s lines).cwd = s.cwd := by
  induction lines generalizing s with
  | nil => rfl
  | cons line lines ih =>
      have hline : ¬ sh.Relocates s line := h [] line lines rfl
      have hlines : sh.StaysPut (sh.executeLine line s).2 lines := by
        intro before next after heq
        exact h (line :: before) next after (by rw [heq, List.cons_append])
      exact (ih hlines).trans (cwd_of_not_relocates hstd hkeeps hline)

theorem cwd_of_reaches (hstd : sh.builtins = .standard) (hkeeps : sh.KeepsFiles)
    (h : sh.Reaches s lines t) (hstays : sh.StaysPut s lines) : t.cwd = s.cwd := by
  have hrun := cwd_run hstd hkeeps hstays
  cases h with
  | after => exact hrun
  | @within _ c o t _ _ hopen written =>
      have hopened : t.cwd = (sh.run s lines).cwd := by
        rw [Session.openOutput_eq] at hopen
        split at hopen <;> cases hopen
        rfl
      rw [Session.cwd_emitLines, hopened, hrun]

/-! ## Resolution -/

theorem locate_of_reaches (hkeeps : sh.KeepsFiles) (h : sh.Reaches s lines t)
    (env : Environment) (cwd : Place) (name : Text) :
    env.locate t.files cwd name = env.locate s.files cwd name :=
  FileTree.locate_of_sameKinds (sameKinds_of_reaches hkeeps h) cwd env.searchPath name

/-- What paths and names lead to in one state of a run, against the state at its start. -/
structure SameResolution (sh : Shell) (s : Session) (lines : List Text) (t : Session) : Prop where
  /-- No path becomes executable, and none stops being so. -/
  paths : ∀ cwd p, t.files.isExecutable cwd p = s.files.isExecutable cwd p
  absolutePaths : ∀ p, Path.isAbsolute p = true →
    t.files.isExecutable t.cwd p = s.files.isExecutable s.cwd p
  /-- No name resolves otherwise before a `cd` succeeds. -/
  names : sh.StaysPut s lines → ∀ (env : Environment) name,
    env.locate t.files t.cwd name = env.locate s.files s.cwd name
  anchoredNames : ∀ (env : Environment) name, env.Anchors name →
    env.locate t.files t.cwd name = env.locate s.files s.cwd name

/-- In all states of a run whose programs change no files themselves, names resolve as at its start,
whatever was redirected and to where: before a `cd` succeeds all names, and after that the names
that lead to absolute paths only. -/
theorem resolution_never_changes (hstd : sh.builtins = .standard) (hkeeps : sh.KeepsFiles)
    (h : sh.Reaches s lines t) : sh.SameResolution s lines t where
  paths cwd p := congrFun (FileTree.isExecutable_of_sameKinds (sameKinds_of_reaches hkeeps h) cwd) p
  absolutePaths p hp := by
    rw [FileTree.isExecutable_of_sameKinds (sameKinds_of_reaches hkeeps h)]
    exact FileTree.isExecutable_of_isAbsolute hp s.files t.cwd s.cwd
  names hstays env name := by
    rw [locate_of_reaches hkeeps h, cwd_of_reaches hstd hkeeps h hstays]
  anchoredNames env name hanchors := by
    rw [locate_of_reaches hkeeps h]
    exact hanchors.locate_eq s.files t.cwd s.cwd

/-- A directory with a dangling link `t` and a program `u`. -/
def linkedTools : FileTree :=
  ⟨[(.ofText ['b'], .dir), (.ofText "b/t".toList, .link (Utf8.encode ['/', 'n'])),
    (.ofText "b/u".toList, .file ⟨.image 0, 0o755⟩)]⟩

/-- The far end of a dangling link is made and a program is emptied, both in the searched directory,
and the names still resolve to nothing and to the emptied file. -/
theorem resolution_never_changes_searched :
    ({} : Shell).builtins = .standard ∧ ({} : Shell).KeepsFiles
      ∧ Reaches {} { files := linkedTools } ["echo>/b/t".toList, "echo>/b/u".toList]
        (run {} { files := linkedTools } ["echo>/b/t".toList, "echo>/b/u".toList])
      ∧ SameResolution {} { files := linkedTools } ["echo>/b/t".toList, "echo>/b/u".toList]
        (run {} { files := linkedTools } ["echo>/b/t".toList, "echo>/b/u".toList])
      ∧ (run {} { files := linkedTools } ["echo>/b/t".toList, "echo>/b/u".toList]).files.get?
        (.ofText ['n']) = some (.file ⟨.bytes [10], File.plainMode⟩)
      ∧ linkedTools.locate .root ['/', 'b'] ['t'] = none
      ∧ linkedTools.locate .root ['/', 'b'] ['u'] = some ['/', 'b', '/', 'u'] := by
  have hreaches : Reaches {} { files := linkedTools } ["echo>/b/t".toList, "echo>/b/u".toList]
      (run {} { files := linkedTools } ["echo>/b/t".toList, "echo>/b/u".toList]) := .after
  have hkeeps : ({} : Shell).KeepsFiles := fun _ _ => Effect.keepsFiles_default
  exact ⟨rfl, hkeeps, hreaches, resolution_never_changes rfl hkeeps hreaches, by decide +kernel,
    by decide +kernel, by decide +kernel⟩

end Shell
end LineShell
