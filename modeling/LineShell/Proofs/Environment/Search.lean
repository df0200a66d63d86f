import LineShell.Environment
import LineShell.Proofs.Path.Pieces

/-!
# Located programs

A path under which a program is located has a slash in it (`slash_mem_of_locate`): a name that is
searched for is appended to a directory, and a name that is used as it stands has more than one
component. So nothing that is located would ever be searched for again.
-/

namespace LineShell

namespace FileTree

theorem isExecutable_nil (t : FileTree) (cwd : Place) : t.isExecutable cwd [] = false := rfl

/-- What is found in a search is a candidate, and candidates lie in directories. -/
theorem slash_mem_of_search {t : FileTree} {cwd : Place} {searchPath name path : Text}
    (h : t.search cwd searchPath name = some path) : '/' ∈ path := by
  have hmem := List.mem_of_find?_eq_some h
  rw [candidates, List.mem_map] at hmem
  obtain ⟨dir, hdir, rfl⟩ := hmem
  exact Path.slash_mem_append (by simpa using (List.mem_filter.mp hdir).2) name

theorem slash_mem_of_locate {t : FileTree} {cwd : Place} {searchPath name path : Text}
    (h : t.locate cwd searchPath name = some path) : '/' ∈ path := by
  unfold locate at h
  split at h
  · exact slash_mem_of_search h
  · next hsole =>
      split at h
      · next hexec =>
          cases h
          have hne : name ≠ [] := by
            rintro rfl
            cases (t.isExecutable_nil cwd).symm.trans hexec
          refine Decidable.byContradiction fun hslash => ?_
          cases (Path.soleComponent?_of_not_mem hne hslash).symm.trans hsole
      · cases h

end FileTree
end LineShell
