import LineShell.Proofs.FileTree.Strides
import LineShell.Proofs.Shell.Variables

/-!
# Below the home directory

A leading tilde stands for the home directory, and what follows its slash lies below that, unless it
begins with a slash of its own: then it stands for itself, as an absolute path does wherever it is
appended. In every other case the path is the home directory, one slash and the rest, and `cd` goes
to where the rest leads from the home directory (`expandsBelow_of_relative`).

Paths without a leading tilde stay as they are, and so does every path if there is no home
directory. `expandTilde_below_iff` has all of this.
-/

namespace LineShell

/-- A directory's path with more behind it, and one slash between the two. -/
def Path.below (dir rest : Text) : Text :=
  if rest = [] then dir
  else if dir.getLast? = some '/' then dir ++ rest
  else dir ++ '/' :: rest

theorem Path.append_eq_below {dir rest : Text} (hdir : dir ≠ []) (hrest : rest ≠ [])
    (h : isAbsolute rest = false) : append dir rest = below dir rest := by
  rw [below, if_neg hrest]
  by_cases hlast : dir.getLast? = some '/'
  · rw [if_pos hlast, append_of_endsInSlash h (endsInSlash_iff.mpr hlast)]
  · rw [if_neg hlast, append_of_not_endsInSlash h hdir]
    exact beq_eq_false_iff_ne.mpr hlast

namespace FileTree

/-- The rest leads to the place from where the directory's path leads. -/
def LeadsBelow (t : FileTree) (cwd : Place) (dir rest : Text) (place : Place) : Prop :=
  ∃ top, t.directory cwd dir = .ok top
    ∧ if rest = [] then place = top else t.directory top rest = .ok place

variable {t : FileTree} {cwd place : Place} {dir rest : Text}

theorem leadsBelow_of_directory (hdir : dir ≠ []) (hrest : Path.isAbsolute rest = false)
    (h : t.directory cwd (Path.below dir rest) = .ok place) : t.LeadsBelow cwd dir rest place := by
  by_cases hempty : rest = []
  · rw [Path.below, if_pos hempty] at h
    exact ⟨place, h, by rw [if_pos hempty]⟩
  · rw [← Path.append_eq_below hdir hempty hrest] at h
    obtain ⟨top, hfirst, hlater⟩ := directory_append hdir hempty hrest h
    exact ⟨top, hfirst, by rw [if_neg hempty]; exact hlater⟩

theorem directory_of_leadsBelow (hdir : dir ≠ []) (hrest : Path.isAbsolute rest = false)
    (h : t.LeadsBelow cwd dir rest place) :
    t.directory cwd (Path.below dir rest) = .ok place
      ∨ t.directory cwd (Path.below dir rest) = .error (.system .nameTooLong)
      ∨ t.directory cwd (Path.below dir rest) = .error (.system .linkLoop) := by
  obtain ⟨top, hfirst, hlater⟩ := h
  by_cases hempty : rest = []
  · rw [if_pos hempty] at hlater
    subst hlater
    rw [Path.below, if_pos hempty]
    exact Or.inl hfirst
  · rw [if_neg hempty] at hlater
    rw [← Path.append_eq_below hdir hempty hrest]
    exact directory_append_cases hrest hfirst hlater

end FileTree

namespace Environment

variable {env : Environment} {home rest : Text}

/-! ## Expansions -/

theorem home?_of_get? (hhome : env.get? "HOME".toList = some home) (hne : home ≠ []) :
    env.home? = some home := by
  rw [home?, hhome, Option.filter_some, decide_eq_true hne, if_pos rfl]

theorem expandTilde_of_no_home (h : env.value "HOME".toList = []) (path : Text) :
    env.expandTilde path = path := by
  have hhome : env.home? = none := by rw [home?_eq, if_pos h]
  rw [expandTilde, hhome]
  cases afterTilde? path with
  | none => rfl
  | some rest => cases rest <;> rfl

theorem expandTilde_tilde (hhome : env.home? = some home) : env.expandTilde "~".toList = home := by
  rw [expandTilde, hhome]
  rfl

theorem expandTilde_slash (hhome : env.home? = some home) (rest : Text) :
    env.expandTilde ("~/".toList ++ rest) = if rest = [] then home else Path.append home rest := by
  have hafter : afterTilde? ("~/".toList ++ rest) = some rest := rfl
  rw [expandTilde, hafter, hhome]
  cases rest <;> rfl

/-- What follows a tilde and a slash lies below the home directory: so does the path, and so does
the directory that `cd` goes to, unless the path is too long or has too many links on the way. -/
structure ExpandsBelow (env : Environment) (home rest : Text) : Prop where
  path : env.expandTilde ("~/".toList ++ rest) = Path.below home rest
  arrives : ∀ (ctx : Context) (args : List Text) (place : Place), ctx.env = env →
    (Builtin.cd.act ctx (("~/".toList ++ rest) :: args)).moveTo = some place →
    ctx.files.LeadsBelow ctx.cwd home rest place
  goes : ∀ (ctx : Context) (args : List Text) (place : Place), ctx.env = env →
    ctx.files.LeadsBelow ctx.cwd home rest place →
    Builtin.cd.act ctx (("~/".toList ++ rest) :: args)
        = { moveTo := some place, result := .ok (.proceed 0) }
      ∨ ∃ e ∈ [Errno.nameTooLong, Errno.linkLoop],
        Builtin.cd.act ctx (("~/".toList ++ rest) :: args)
          = .fail (.directory (Path.below home rest) (.system e))

theorem expandsBelow_of_relative (hhome : env.get? "HOME".toList = some home) (hne : home ≠ [])
    (hrest : Path.isAbsolute rest = false) : env.ExpandsBelow home rest := by
  have hpath : env.expandTilde ("~/".toList ++ rest) = Path.below home rest := by
    rw [expandTilde_slash (home?_of_get? hhome hne)]
    by_cases hempty : rest = []
    · rw [if_pos hempty, Path.below, if_pos hempty]
    · rw [if_neg hempty, Path.append_eq_below hne hempty hrest]
  refine ⟨hpath, ?_, ?_⟩
  · rintro ctx args place rfl hmove
    rw [Builtin.cd_act, hpath] at hmove
    split at hmove
    · cases hmove
    · next hplace =>
        cases hmove
        exact FileTree.leadsBelow_of_directory hne hrest hplace
  · rintro ctx args place rfl hleads
    rw [Builtin.cd_act, hpath]
    rcases FileTree.directory_of_leadsBelow hne hrest hleads with hok | hlong | hloop
    · left
      rw [hok]
    · right
      refine ⟨.nameTooLong, List.mem_cons_self .., ?_⟩
      rw [hlong]
    · right
      refine ⟨.linkLoop, List.mem_cons_of_mem _ (List.mem_cons_self ..), ?_⟩
      rw [hloop]

/-- A path keeps its length when something is put before it only if that is empty. -/
theorem below_ne_of_ne_nil (hne : home ≠ []) (hrest : rest ≠ []) : Path.below home rest ≠ rest := by
  intro heq
  have hpos := List.length_pos_iff.mpr hne
  have hlength := congrArg List.length heq
  rw [Path.below, if_neg hrest] at hlength
  split at hlength
  · rw [List.length_append] at hlength
    omega
  · rw [List.length_append, List.length_cons] at hlength
    omega

/-- An environment with nothing but a home directory. -/
def homeOnly : Environment := ⟨[("HOME".toList, "/home/user".toList)]⟩

/-- Two directories of the same name, one of them in the home directory. -/
def twoPlaces : FileTree :=
  (({} : FileTree).plant (.ofText "home/user/x".toList) .dir).plant (.ofText "x".toList) .dir

/-- A home directory that is a link, with a directory beside its target. -/
def linkedHome : FileTree :=
  ((({} : FileTree).plant (.ofText "home/user".toList)
      (.link (Utf8.encode "/far/user".toList))).plant
    (.ofText "far/user".toList) .dir).plant (.ofText "far/x".toList) .dir

/-- A tilde stands for the home directory, and what follows its slash lies below that exactly if it
does not begin with a slash itself; it then stands for itself. All other paths stay as they are, and
all paths do if there is no home directory. -/
theorem expandTilde_below_iff (env : Environment) :
    (∀ path, ¬ HasTilde path ∨ env.value "HOME".toList = [] → env.expandTilde path = path)
      ∧ ∀ home, env.get? "HOME".toList = some home → home ≠ [] →
        env.expandTilde "~".toList = home
          ∧ ∀ rest, (env.ExpandsBelow home rest ↔ rest.head? ≠ some '/')
            ∧ (rest.head? = some '/' → env.expandTilde ("~/".toList ++ rest) = rest) := by
  refine ⟨fun path h => ?_, fun home hhome hne => ?_⟩
  · rcases h with htilde | hvalue
    · exact expandTilde_of_not_hasTilde htilde env
    · exact expandTilde_of_no_home hvalue path
  have hsome := home?_of_get? hhome hne
  refine ⟨expandTilde_tilde hsome, fun rest => ?_⟩
  have habsolute : rest.head? = some '/' → env.expandTilde ("~/".toList ++ rest) = rest := by
    intro hhead
    have hrest : rest ≠ [] := by
      rintro rfl
      cases hhead
    rw [expandTilde_slash hsome, if_neg hrest, Path.append,
      if_pos (Path.isAbsolute_iff.mpr hhead)]
  refine ⟨⟨?_, ?_⟩, habsolute⟩
  · intro hbelow hhead
    have hrest : rest ≠ [] := by
      rintro rfl
      cases hhead
    exact below_ne_of_ne_nil hne hrest (hbelow.path.symm.trans (habsolute hhead))
  · intro hhead
    refine expandsBelow_of_relative hhome hne (Bool.eq_false_iff.mpr ?_)
    exact fun habs => hhead (Path.isAbsolute_iff.mp habs)

/-- A second slash behind the tilde is taken for the root directory. -/
theorem expandTilde_slashes :
    homeOnly.expandTilde "~//x".toList = "/x".toList
      ∧ Path.below "/home/user".toList "/x".toList = "/home/user//x".toList
      ∧ (Builtin.cd.act ⟨homeOnly, twoPlaces, .root, fun _ => false⟩ ["~//x".toList]).moveTo
        = some ⟨.ofText "x".toList, 0⟩
      ∧ (Builtin.cd.act ⟨homeOnly, twoPlaces, .root, fun _ => false⟩
          ["/home/user//x".toList]).moveTo
        = some ⟨.ofText "home/user/x".toList, 0⟩
      ∧ ¬ homeOnly.ExpandsBelow "/home/user".toList "/x".toList := by
  have hexpand : homeOnly.expandTilde "~//x".toList = "/x".toList := by decide
  have hbelow : Path.below "/home/user".toList "/x".toList = "/home/user//x".toList := by decide
  refine ⟨hexpand, hbelow, by decide +kernel, by decide +kernel, fun h => ?_⟩
  cases hexpand.symm.trans (h.path.trans hbelow)

/-- What follows the tilde is taken from where the home directory leads, through a link here. -/
theorem expandTilde_below_iff_linked :
    homeOnly.get? "HOME".toList = some "/home/user".toList ∧ "/home/user".toList ≠ []
      ∧ (Builtin.cd.act ⟨homeOnly, linkedHome, .root, fun _ => false⟩ ["~/../x".toList]).moveTo
        = some ⟨.ofText "far/x".toList, 0⟩
      ∧ linkedHome.LeadsBelow .root "/home/user".toList "../x".toList
        ⟨.ofText "far/x".toList, 0⟩ := by
  have hhome : homeOnly.get? "HOME".toList = some "/home/user".toList := by decide
  have hne : "/home/user".toList ≠ [] := by decide
  have hmove : (Builtin.cd.act ⟨homeOnly, linkedHome, .root, fun _ => false⟩
      ["~/../x".toList]).moveTo = some ⟨.ofText "far/x".toList, 0⟩ := by
    decide +kernel
  have hbelow := ((expandTilde_below_iff homeOnly).2 _ hhome hne).2 "../x".toList
  exact ⟨hhome, hne, hmove, (hbelow.1.mpr (by decide)).arrives _ [] _ rfl hmove⟩

end Environment
end LineShell
