import LineShell.Proofs.Environment.FirstMatch
import LineShell.Proofs.FileTree.FileNames

/-!
# Names with a slash

A name with a slash is used as given unless it is a trailed component: a first component with
nothing behind it but slashes and dots that stand alone. As given such a name is spelled as a
directory and stands for no program, but its component is searched for in the directories of the
search path (`locate_of_trailed`).

So a name with a slash stands for the same in every environment, namely for itself if that is a
program, exactly if it is no trailed component that a file can have as its name
(`locate_as_given_iff`).
-/

namespace LineShell

/-! ## Components that a search can find -/

/-- A text without a slash that the system accepts as the name of a file. -/
def Path.IsFileName (component : Text) : Prop :=
  CanName (Utf8.encode component) ∧ '\x00' ∉ component

namespace FileTree

variable {t : FileTree} {cwd : Place}

theorem not_isProgram_of_trailed {component name : Text} (h : Path.Trailed component name) :
    ¬ t.IsProgram cwd name := by
  rintro ⟨names, f, hfound, -⟩
  exact h.not_endsInName (resolve_file hfound).2

/-- No directory has a program whose name no file can have. -/
theorem not_offers_of_not_isFileName {component dir : Text} (hne : component ≠ [])
    (hslash : '/' ∉ component) (h : ¬ Path.IsFileName component) :
    ¬ t.Offers cwd component dir := by
  rintro ⟨hdir, names, f, hfound, -⟩
  obtain ⟨hnul, -, hlast⟩ := resolve_file hfound
  have hrelative : Path.isAbsolute component = false := Path.isAbsolute_of_not_mem hslash
  refine h ⟨hlast (Utf8.encode component) ?_, fun hmem =>
    hnul ((Path.suffix_append dir component).subset hmem)⟩
  rw [Names.ofText_append hrelative hdir, Names.ofText, Names.ofText,
    Path.pieces_of_not_mem hne hslash, List.getLast?_append]
  rfl

end FileTree

/-! ## Names used as given -/

namespace Environment

variable {component name : Text}

theorem locate_of_trailed (h : Path.Trailed component name) (env : Environment) (t : FileTree)
    (cwd : Place) : env.locate t cwd name = t.search cwd env.searchPath component := by
  have hslash : '/' ∈ name := by
    obtain ⟨-, -, trail, rfl, -⟩ := h
    exact List.mem_append_right component (List.mem_cons_self ..)
  rw [locate, FileTree.locate, (Path.soleComponent?_eq_some_iff hslash).mpr h]

theorem locate_of_not_trailed (hslash : '/' ∈ name) (h : ∀ component, ¬ Path.Trailed component name)
    (env : Environment) (t : FileTree) (cwd : Place) :
    env.locate t cwd name = if t.IsProgram cwd name then some name else none := by
  have hsole : Path.soleComponent? name = none := by
    rw [Option.eq_none_iff_forall_ne_some]
    intro component hcomponent
    exact h component ((Path.soleComponent?_eq_some_iff hslash).mp hcomponent)
  rw [locate, FileTree.locate, hsole]
  simp only [FileTree.isExecutable_iff_isProgram]

/-- A root directory with nothing but a program of this name. -/
def holding (name : Text) : FileTree := ⟨[([Utf8.encode name], .file ⟨.image 0, 0o755⟩)]⟩

theorem isProgram_holding (hne : component ≠ []) (hslash : '/' ∉ component)
    (h : Path.IsFileName component) : (holding component).IsProgram .root ('/' :: component) := by
  obtain ⟨hname, hnul⟩ := h
  have hends : Path.endsInSlash ('/' :: component) = false := by
    rw [← List.singleton_append, Path.endsInSlash_append_of_ne_nil _ hne, Bool.eq_false_iff]
    exact fun hlast => hslash (List.mem_of_getLast? (Path.endsInSlash_iff.mp hlast))
  have hnames : Names.ofText ('/' :: component) = [Utf8.encode component] :=
    congrArg (List.map Utf8.encode)
      ((Path.pieces_slash [] component).trans (Path.pieces_of_not_mem hne hslash))
  have hlength : (Utf8.encode ('/' :: component)).length < Path.maxPath := by
    have hshort : (Utf8.encode component).length ≤ Path.maxName := hname.2.2
    have hcons : (Utf8.encode ('/' :: component)).length = (Utf8.encode component).length + 1 := by
      rw [Utf8.encode_cons, List.length_append, Nat.add_comm]
      rfl
    rw [hcons]
    unfold Path.maxPath Path.maxName at *
    omega
  have hfile : (holding component).get? [Utf8.encode component]
      = some (.file ⟨.image 0, 0o755⟩) := by
    simp [FileTree.get?, holding]
  have hnul' : '\x00' ∉ '/' :: component := by
    rw [List.mem_cons, not_or]
    exact ⟨by decide, hnul⟩
  refine ⟨[Utf8.encode component], ⟨.image 0, 0o755⟩, FileTree.resolve_eq_ok_iff.mpr
    ⟨hnul', hlength, List.cons_ne_nil _ _, ?_⟩, by decide⟩
  rw [hnames, hends]
  exact FileTree.walk_name hname rfl hfile _

theorem search_holding (hne : component ≠ []) (hslash : '/' ∉ component)
    (h : Path.IsFileName component) :
    (holding component).search .root "/".toList component = some ('/' :: component) := by
  have hrelative : Path.isAbsolute component = false := Path.isAbsolute_of_not_mem hslash
  have happend : Path.append "/".toList component = '/' :: component :=
    Path.append_of_endsInSlash hrelative rfl
  refine FileTree.search_eq_some_iff.mpr
    ⟨[], "/".toList, [], rfl, ⟨by decide, ?_⟩, fun _ hmem => absurd hmem List.not_mem_nil, happend⟩
  rw [happend]
  exact isProgram_holding hne hslash h

/-- A program in a directory of its own. -/
def toolInBin : FileTree :=
  ⟨[(.ofText "bin".toList, .dir), (.ofText "bin/tool".toList, .file ⟨.image 0, 0o755⟩)]⟩

/-- The name stands for itself if it is a program and for nothing otherwise, whatever the search
path. -/
def UsedAsGiven (name : Text) : Prop :=
  ∀ (env : Environment) (t : FileTree) (cwd : Place),
    env.locate t cwd name = if t.IsProgram cwd name then some name else none

/-- A name with a slash is used as given, in one state exactly if it is no trailed component that
the search path offers there, and in all states exactly if it is no trailed component that a file
can have as its name. A trailed component is no program and is searched for. -/
theorem locate_as_given_iff {name : Text} (hslash : '/' ∈ name) :
    (UsedAsGiven name ↔ ¬ ∃ component, Path.Trailed component name ∧ Path.IsFileName component)
      ∧ (∀ (env : Environment) (t : FileTree) (cwd : Place),
        (env.locate t cwd name = if t.IsProgram cwd name then some name else none)
          ↔ ∀ component, Path.Trailed component name →
            ∀ dir ∈ env.searchPath.splitOn ':', ¬ t.Offers cwd component dir)
      ∧ ∀ component, Path.Trailed component name →
        ∀ (env : Environment) (t : FileTree) (cwd : Place),
          ¬ t.IsProgram cwd name
            ∧ env.locate t cwd name = t.search cwd env.searchPath component := by
  have hstate : ∀ (env : Environment) (t : FileTree) (cwd : Place),
      (env.locate t cwd name = if t.IsProgram cwd name then some name else none)
        ↔ ∀ component, Path.Trailed component name →
          ∀ dir ∈ env.searchPath.splitOn ':', ¬ t.Offers cwd component dir := by
    intro env t cwd
    constructor
    · intro hgiven component htrailed
      rw [locate_of_trailed htrailed, if_neg (FileTree.not_isProgram_of_trailed htrailed)] at hgiven
      exact FileTree.search_eq_none_iff.mp hgiven
    · intro hoffers
      by_cases htrailed : ∃ component, Path.Trailed component name
      · obtain ⟨component, htrailed⟩ := htrailed
        rw [locate_of_trailed htrailed, if_neg (FileTree.not_isProgram_of_trailed htrailed)]
        exact FileTree.search_eq_none_iff.mpr (hoffers component htrailed)
      · exact locate_of_not_trailed hslash (not_exists.mp htrailed) env t cwd
  refine ⟨⟨?_, ?_⟩, hstate, fun component htrailed env t cwd =>
    ⟨FileTree.not_isProgram_of_trailed htrailed, locate_of_trailed htrailed env t cwd⟩⟩
  · rintro hgiven ⟨component, htrailed, hfile⟩
    have hmissing := hgiven (searching "/".toList) (holding component) .root
    rw [locate_of_trailed htrailed, if_neg (FileTree.not_isProgram_of_trailed htrailed)] at hmissing
    cases hmissing.symm.trans (search_holding htrailed.1 htrailed.2.1 hfile)
  · intro hnone env t cwd
    refine (hstate env t cwd).mpr fun component htrailed dir _ => ?_
    exact FileTree.not_offers_of_not_isFileName htrailed.1 htrailed.2.1
      fun hfile => hnone ⟨component, htrailed, hfile⟩

/-- A slash at the end does not keep a name from being searched for. -/
theorem locate_slash_searched :
    '/' ∈ "tool/".toList
      ∧ ¬ toolInBin.IsProgram .root "tool/".toList
      ∧ (searching "/bin".toList).locate toolInBin .root "tool/".toList = some "/bin/tool".toList
      ∧ (searching []).locate toolInBin .root "tool/".toList = none
      ∧ ¬ UsedAsGiven "tool/".toList := by
  have hnone : ¬ toolInBin.IsProgram .root "tool/".toList := by decide +kernel
  have hfound : (searching "/bin".toList).locate toolInBin .root "tool/".toList
      = some "/bin/tool".toList := by
    decide +kernel
  refine ⟨by decide, hnone, hfound, by decide +kernel, fun hgiven => ?_⟩
  have hmissing := hgiven (searching "/bin".toList) toolInBin .root
  rw [if_neg hnone] at hmissing
  cases hmissing.symm.trans hfound

/-- A directory before a name keeps it from being searched for, and dots behind it do not. -/
theorem locate_as_given_iff_dots :
    '/' ∈ "./tool".toList ∧ UsedAsGiven "./tool".toList
      ∧ '/' ∈ "tool/.".toList ∧ ¬ toolInBin.IsProgram .root "tool/.".toList
      ∧ (searching "/bin".toList).locate toolInBin .root "tool/.".toList
        = some "/bin/tool".toList := by
  have hbefore : '/' ∈ "./tool".toList := by decide
  have hbehind : '/' ∈ "tool/.".toList := by decide
  have htrailed : Path.Trailed "tool".toList "tool/.".toList :=
    (Path.soleComponent?_eq_some_iff hbehind).mp (by decide)
  have hsearch : toolInBin.search .root (searching "/bin".toList).searchPath "tool".toList
      = some "/bin/tool".toList := by
    decide +kernel
  obtain ⟨hnone, hlocate⟩ :=
    (locate_as_given_iff hbehind).2.2 _ htrailed (searching "/bin".toList) toolInBin .root
  refine ⟨hbefore, (locate_as_given_iff hbefore).1.mpr ?_, hbehind, hnone, hlocate.trans hsearch⟩
  rintro ⟨component, hcomponent, -⟩
  have hsole := (Path.soleComponent?_eq_some_iff hbefore).mpr hcomponent
  cases (by decide : Path.soleComponent? "./tool".toList = none).symm.trans hsole

end Environment
end LineShell
