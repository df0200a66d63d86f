import LineShell.Proofs.Environment.Search

/-!
# The first match of a search

A name without a slash stands for the program in the first directory of the search path that has
one of this name, and for nothing if none has (`locate_first_match`). A directory has a program of a
name if its path with the name appended leads, through links, to a regular file with an execute bit;
other files, directories and links that lead nowhere are passed over, and so are empty directory
names.

So a search path can be cut at any of its colons: the second part is searched if nothing is found in
the first.
-/

namespace LineShell

namespace FileTree

/-! ## Programs in directories -/

/-- The path leads, through links, to a regular file with an execute bit. -/
def IsProgram (t : FileTree) (cwd : Place) (p : Text) : Prop :=
  ∃ names f, t.resolve cwd .find p = .ok (.file names f) ∧ f.mode &&& 0o111 ≠ 0

theorem isExecutable_iff_isProgram {t : FileTree} {cwd : Place} {p : Text} :
    t.isExecutable cwd p = true ↔ t.IsProgram cwd p := by
  unfold isExecutable IsProgram
  split
  · next names f hfound =>
      rw [hfound]
      constructor
      · intro hexec
        exact ⟨names, f, rfl, of_decide_eq_true hexec⟩
      · rintro ⟨names', f', hfile, hmode⟩
        cases hfile
        exact decide_eq_true hmode
  · next hother =>
      refine iff_of_false Bool.false_ne_true ?_
      rintro ⟨names, f, hfound, -⟩
      exact hother names f hfound

instance (t : FileTree) (cwd : Place) (p : Text) : Decidable (t.IsProgram cwd p) :=
  decidable_of_iff _ isExecutable_iff_isProgram

/-- The directory of a search path has a program of this name. -/
def Offers (t : FileTree) (cwd : Place) (name dir : Text) : Prop :=
  dir ≠ [] ∧ t.IsProgram cwd (Path.append dir name)

instance (t : FileTree) (cwd : Place) (name dir : Text) : Decidable (t.Offers cwd name dir) :=
  inferInstanceAs (Decidable (_ ∧ _))

/-! ## Searching -/

section Search
variable (t : FileTree) (cwd : Place)

theorem search_eq (searchPath name : Text) :
    t.search cwd searchPath name
      = ((searchPath.splitOn ':').find? fun dir => t.Offers cwd name dir).map
          (Path.append · name) := by
  rw [search, candidates, Text.split_eq_splitOn, List.find?_map, List.find?_filter]
  congr 2
  funext dir
  refine decide_eq_decide.mpr ?_
  rw [Offers, ← isExecutable_iff_isProgram, decide_eq_true_iff]
  rfl

theorem search_append (p q name : Text) :
    t.search cwd (p ++ ':' :: q) name = (t.search cwd p name).or (t.search cwd q name) := by
  rw [search_eq, search_eq, search_eq, Text.splitOn_append, List.find?_append, Option.map_or]

variable {t cwd} {searchPath name : Text}

theorem search_eq_some_iff {path : Text} :
    t.search cwd searchPath name = some path
      ↔ ∃ earlier dir later, searchPath.splitOn ':' = earlier ++ dir :: later
        ∧ t.Offers cwd name dir ∧ (∀ d ∈ earlier, ¬ t.Offers cwd name d)
        ∧ Path.append dir name = path := by
  rw [search_eq, Option.map_eq_some_iff]
  constructor
  · rintro ⟨dir, hfind, hpath⟩
    obtain ⟨hoffers, earlier, later, hdirs, hearlier⟩ := List.find?_eq_some_iff_append.mp hfind
    exact ⟨earlier, dir, later, hdirs, of_decide_eq_true hoffers,
      fun d hd => by simpa using hearlier d hd, hpath⟩
  · rintro ⟨earlier, dir, later, hdirs, hoffers, hearlier, hpath⟩
    refine ⟨dir, List.find?_eq_some_iff_append.mpr
      ⟨decide_eq_true hoffers, earlier, later, hdirs, fun d hd => ?_⟩, hpath⟩
    simpa using hearlier d hd

theorem search_eq_none_iff :
    t.search cwd searchPath name = none
      ↔ ∀ dir ∈ searchPath.splitOn ':', ¬ t.Offers cwd name dir := by
  rw [search_eq, Option.map_eq_none_iff, List.find?_eq_none]
  simp only [decide_eq_true_eq]

end Search
end FileTree

/-! ## First matches -/

namespace Environment

/-- Names without a slash are searched for. -/
theorem locate_eq_search {name : Text} (hname : name ≠ []) (hslash : '/' ∉ name)
    (env : Environment) (t : FileTree) (cwd : Place) :
    env.locate t cwd name = t.search cwd env.searchPath name := by
  rw [locate, FileTree.locate, Path.soleComponent?_of_not_mem hname hslash]

/-- A name without a slash stands for the program in the first directory that has one of this name,
and for nothing if none has. The second part of a search path is searched if nothing is found in the
first. -/
theorem locate_first_match {name : Text} (hname : name ≠ []) (hslash : '/' ∉ name) (t : FileTree)
    (cwd : Place) :
    (∀ (env : Environment) path, env.locate t cwd name = some path
        ↔ ∃ earlier dir later, env.searchPath.splitOn ':' = earlier ++ dir :: later
          ∧ t.Offers cwd name dir ∧ (∀ d ∈ earlier, ¬ t.Offers cwd name d)
          ∧ Path.append dir name = path)
      ∧ (∀ env : Environment, env.locate t cwd name = none
        ↔ ∀ dir ∈ env.searchPath.splitOn ':', ¬ t.Offers cwd name dir)
      ∧ (∀ env first second : Environment,
        env.searchPath = first.searchPath ++ ':' :: second.searchPath →
          env.locate t cwd name = (first.locate t cwd name).or (second.locate t cwd name))
      ∧ ∀ (env : Environment) path, env.locate t cwd name = some path → '/' ∈ path := by
  refine ⟨fun env path => ?_, fun env => ?_, fun env first second hsplit => ?_,
    fun env path h => FileTree.slash_mem_of_locate h⟩
  · rw [locate_eq_search hname hslash, FileTree.search_eq_some_iff]
  · rw [locate_eq_search hname hslash, FileTree.search_eq_none_iff]
  · simp only [locate_eq_search hname hslash, hsplit, FileTree.search_append]

/-- Directories in which `x` is a directory, a file that may not be executed, a dangling link, and a
link to a program. -/
def fourNamesakes : FileTree :=
  ⟨[(.ofText "a".toList, .dir), (.ofText "a/x".toList, .dir),
    (.ofText "b".toList, .dir), (.ofText "b/x".toList, .file ⟨.image 0, 0o644⟩),
    (.ofText "c".toList, .dir), (.ofText "c/x".toList, .link (Utf8.encode ['y'])),
    (.ofText "d".toList, .dir), (.ofText "d/x".toList, .link (Utf8.encode ['y'])),
    (.ofText "d/y".toList, .file ⟨.image 0, 0o755⟩)]⟩

/-- The environment with this search path. -/
def searching (searchPath : Text) : Environment := ⟨[("PATH".toList, searchPath)]⟩

/-- What is no program is passed over, and so are empty entries. -/
theorem locate_first_match_passedOver :
    ['x'] ≠ [] ∧ '/' ∉ ['x']
      ∧ (searching ":/a:/b:/c::/d/:/d".toList).searchPath
        = (searching ":/a:/b:/c:".toList).searchPath
          ++ ':' :: (searching "/d/:/d".toList).searchPath
      ∧ (searching ":/a:/b:/c:".toList).locate fourNamesakes .root ['x'] = none
      ∧ (searching ":/a:/b:/c::/d/:/d".toList).locate fourNamesakes .root ['x']
        = some "/d/x".toList := by
  have hname : ['x'] ≠ [] := by decide
  have hslash : '/' ∉ ['x'] := by decide
  have hsplit : (searching ":/a:/b:/c::/d/:/d".toList).searchPath
      = (searching ":/a:/b:/c:".toList).searchPath
        ++ ':' :: (searching "/d/:/d".toList).searchPath := by
    decide
  have hfirst : (searching ":/a:/b:/c:".toList).locate fourNamesakes .root ['x'] = none := by
    decide +kernel
  have hsecond : (searching "/d/:/d".toList).locate fourNamesakes .root ['x']
      = some "/d/x".toList := by
    decide +kernel
  refine ⟨hname, hslash, hsplit, hfirst, ?_⟩
  rw [(locate_first_match hname hslash fourNamesakes .root).2.2.1 _ _ _ hsplit, hfirst, hsecond]
  rfl

end Environment
end LineShell
