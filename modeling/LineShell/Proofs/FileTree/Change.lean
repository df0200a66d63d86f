import LineShell.FileTree.Output

/-!
# What opening and writing change

A walk that ends at a file ends where that file lies, and one that ends at a free place ends where
nothing lies (`resolve_liesIn`). So opening a path for output changes no entry but the one that the
path leads to (`sameExcept_create`), where a file or nothing was before (`get?_outputPlace`): the
links on the way stay. Writing to what was opened changes that entry only (`sameExcept_write`).

What a file holds after it was opened is what was written to it since (`bytes?_create`,
`bytes?_write`).
-/

namespace LineShell

/-- The found thing lies in the tree where the walk says. -/
def Found.LiesIn (t : FileTree) : Found → Prop
  | .dir _ => True
  | .file names f => t.get? names = some (.file f)
  | .device _ => True
  | .free names => t.get? names = none

/-- The place of the file that is found or could be made. -/
def Found.filePlace? : Found → Option Names
  | .dir _ => none
  | .file names _ => some names
  | .device _ => none
  | .free names => some names

namespace FileTree

/-! ## Where walks end -/

theorem advance_liesIn {t : FileTree} {purpose : Purpose}
    {follow : Place → Bytes → Route → Except IoError Found}
    (hfollow : ∀ place path route found, follow place path route = .ok found → found.LiesIn t)
    {place : Place} {pieces : List Name} {slash : Bool} {found : Found}
    (h : t.advance purpose follow place pieces slash = .ok found) : found.LiesIn t := by
  fun_induction advance t purpose follow place pieces slash with
  | case1 => cases h; trivial
  | case2 | case3 | case9 => rename_i ih; exact ih h
  | case10 => exact hfollow _ _ _ _ h
  | case7 => cases h; assumption
  | case11 => cases h; assumption
  | case13 => cases h; trivial
  | _ => cases h

theorem walk_liesIn {t : FileTree} {purpose : Purpose} {links : Nat} {place : Place}
    {pieces : List Name} {slash : Bool} {found : Found}
    (h : t.walk purpose links place pieces slash = .ok found) : found.LiesIn t := by
  induction links generalizing place pieces slash found with
  | zero =>
      rw [walk] at h
      exact advance_liesIn (fun _ _ _ _ hfollow => by cases hfollow) h
  | succ links ih =>
      rw [walk] at h
      exact advance_liesIn (fun _ _ _ _ hfollow => ih hfollow) h

theorem resolve_liesIn {t : FileTree} {cwd : Place} {purpose : Purpose} {p : Text} {found : Found}
    (h : t.resolve cwd purpose p = .ok found) : found.LiesIn t := by
  obtain ⟨-, -, -, hwalk⟩ := reach_eq_ok_iff.mp h
  exact walk_liesIn hwalk

/-- The place of the file that opening a path for output makes or empties. -/
def outputPlace? (t : FileTree) (cwd : Place) (p : Text) : Option Names :=
  match t.resolve cwd .make p with
  | .error _ => none
  | .ok found => found.filePlace?

theorem get?_outputPlace {t : FileTree} {cwd : Place} {p : Text} {names : Names}
    (h : t.outputPlace? cwd p = some names) :
    t.get? names = none ∨ ∃ f, t.get? names = some (.file f) := by
  unfold outputPlace? at h
  split at h
  · cases h
  · next found hresolve =>
      have hlies := resolve_liesIn hresolve
      cases found with
      | dir place => cases h
      | device d => cases h
      | file place f =>
          cases h
          exact Or.inr ⟨f, hlies⟩
      | free place =>
          cases h
          exact Or.inl hlies

theorem outputPlace_ne_nil {t : FileTree} {cwd : Place} {p : Text} {names : Names}
    (h : t.outputPlace? cwd p = some names) : names ≠ [] := by
  rintro rfl
  rcases get?_outputPlace h with hnone | ⟨f, hfile⟩
  · cases t.get?_root.symm.trans hnone
  · cases t.get?_root.symm.trans hfile

/-! ## Trees that agree but at one place -/

/-- At every place but the given one, if one is given, both trees have the same. -/
def SameExcept (place : Option Names) (t t' : FileTree) : Prop :=
  ∀ q, place ≠ some q → t'.get? q = t.get? q

theorem SameExcept.refl (place : Option Names) (t : FileTree) : SameExcept place t t :=
  fun _ _ => rfl

theorem SameExcept.trans {place : Option Names} {t t' t'' : FileTree}
    (h : SameExcept place t t') (h' : SameExcept place t' t'') : SameExcept place t t'' :=
  fun q hq => (h' q hq).trans (h q hq)

theorem sameExcept_insert (t : FileTree) {p : Names} (hp : p ≠ []) (e : Entry) :
    SameExcept (some p) t (t.insert p e) := by
  intro q hq
  rw [get?_insert t hp, if_neg fun h => hq (congrArg some h.symm)]

/-! ## Opening -/

theorem create_place {t t' : FileTree} {cwd : Place} {p : Text} {d : Destination}
    (h : t.create cwd p = .ok (d, t')) : d.names? = t.outputPlace? cwd p := by
  unfold create at h
  unfold outputPlace?
  split at h <;> cases h <;> next hresolve => rw [hresolve]; rfl

theorem sameExcept_create {t t' : FileTree} {cwd : Place} {p : Text} {d : Destination}
    (h : t.create cwd p = .ok (d, t')) : SameExcept d.names? t t' := by
  have hplace := create_place h
  unfold create at h
  split at h <;> cases h
  · exact SameExcept.refl _ t
  · exact sameExcept_insert t (outputPlace_ne_nil hplace.symm) _
  · exact sameExcept_insert t (outputPlace_ne_nil hplace.symm) _

/-! ## Writing -/

theorem sameExcept_write (t : FileTree) (d : Destination) (bs : Bytes) :
    SameExcept d.names? t (t.write d bs).2 := by
  cases d with
  | device d =>
      cases d with
      | null => exact SameExcept.refl _ t
      | full =>
          simp only [write]
          split <;> exact SameExcept.refl _ t
  | file names =>
      simp only [write]
      split
      · next f hfile =>
          refine sameExcept_insert t ?_ _
          rintro rfl
          cases t.get?_root.symm.trans hfile
      · exact SameExcept.refl _ t

/-! ## Contents -/

/-- The bytes of the file at a place, if one lies there and is no program image. -/
def bytes? (t : FileTree) (names : Names) : Option Bytes :=
  match t.get? names with
  | some (.file ⟨.bytes data, _⟩) => some data
  | _ => none

theorem get?_of_bytes? {t : FileTree} {names : Names} {data : Bytes}
    (h : t.bytes? names = some data) : ∃ mode, t.get? names = some (.file ⟨.bytes data, mode⟩) := by
  unfold bytes? at h
  split at h
  · next mode hfile =>
      cases h
      exact ⟨mode, hfile⟩
  · cases h

/-- A file that was opened for output is empty, whatever was in it. -/
theorem bytes?_create {t t' : FileTree} {cwd : Place} {p : Text} {names : Names}
    (h : t.create cwd p = .ok (.file names, t')) : t'.bytes? names = some [] := by
  have hnames : names ≠ [] := outputPlace_ne_nil (create_place h).symm
  unfold create at h
  split at h <;> cases h <;> rw [bytes?, get?_insert t hnames, if_pos rfl]
  rfl

theorem bytes?_write {t : FileTree} {names : Names} {data : Bytes}
    (h : t.bytes? names = some data) (bs : Bytes) :
    (t.write (.file names) bs).1 = none
      ∧ (t.write (.file names) bs).2.bytes? names = some (data ++ bs) := by
  obtain ⟨mode, hfile⟩ := get?_of_bytes? h
  have hnames : names ≠ [] := by
    rintro rfl
    cases t.get?_root.symm.trans hfile
  simp only [write, hfile]
  exact ⟨trivial, by rw [bytes?, get?_insert t hnames, if_pos rfl]; rfl⟩

end FileTree
end LineShell
