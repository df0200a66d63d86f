import LineShell.Proofs.FileTree.Strides
import LineShell.Proofs.FileTree.Ways

/-!
# Existing directories

A directory exists if it was not removed and every place on the way to it is a directory's own, not
a link's (`HasDir`). From an existing directory every path that leads to a directory leads to an
existing one, through whatever links and however often it turns upwards (`hasDir_of_directory`).

The path of an existing directory is *physical*: it is absolute, has no piece that is a dot or two,
and meets no link (`isPhysical_ofNames`). It leads back from everywhere, unless it is too long for
the system (`reach_ofNames`), and if it is UTF-8, so that it can be typed, a typed path does
(`directory_of_path?`).
-/

namespace LineShell

/-- The path of a link. -/
def Entry.linkPath? : Entry → Option Bytes
  | .link path => some path
  | _ => none

namespace FileTree

variable {t t' : FileTree} {place : Place}

/-! ## Conditions -/

/-- The directory was not removed, and every name on the way to it leads to a directory. -/
structure HasDir (t : FileTree) (place : Place) : Prop where
  lost : place.lost = 0
  names : ∀ name ∈ place.names, Path.IsPiece name ∧ Path.CanName name
  dirs : ∀ names, names <+: place.names → t.get? names = some .dir

/-- No link's path holds a NUL byte: the system would not make such a link. -/
def HasSoundLinks (t : FileTree) : Prop :=
  ∀ names path, t.get? names = some (.link path) → 0 ∉ path

theorem hasSoundLinks_of_entries
    (h : ∀ x ∈ t.entries, ∀ path ∈ x.2.linkPath?, 0 ∉ path) : t.HasSoundLinks := by
  intro names path hlink
  unfold get? at hlink
  split at hlink
  · cases hlink
  · obtain ⟨before, after, hentries, -⟩ := List.lookup_eq_some_iff.mp hlink
    refine h (names, .link path) ?_ path rfl
    rw [hentries]
    exact List.mem_append_right _ (List.mem_cons_self ..)

/-- The path is absolute, has no piece that is a dot or two, and meets directories only. -/
structure IsPhysical (t : FileTree) (path : Bytes) : Prop where
  absolute : path.head? = some Path.slash
  plain : ∀ piece ∈ Path.parts Path.slash path, piece ≠ Name.here ∧ piece ≠ Name.above
  unlinked : ∀ names, names <+: Path.parts Path.slash path → t.get? names = some .dir

/-! ## Steps of a walk -/

theorem hasDir_root (t : FileTree) : t.HasDir .root where
  lost := rfl
  names _ hname := absurd hname List.not_mem_nil
  dirs names hnames := by
    obtain rfl := List.prefix_nil.mp hnames
    exact t.get?_root

theorem HasDir.parent (h : t.HasDir place) : t.HasDir place.parent := by
  obtain ⟨names, lost⟩ := place
  obtain rfl : lost = 0 := h.lost
  have hshorter := List.dropLast_prefix names
  exact {
    lost := rfl
    names := fun name hname => h.names name (hshorter.subset hname)
    dirs := fun above habove => h.dirs above (habove.trans hshorter) }

theorem HasDir.child (h : t.HasDir place) {piece : Name} (hpiece : Path.IsPiece piece)
    (hname : Path.CanName piece) (hentry : t.get? (place.names ++ [piece]) = some .dir) :
    t.HasDir ⟨place.names ++ [piece], 0⟩ where
  lost := rfl
  names name hmem := by
    rcases List.mem_append.mp hmem with hmem | hmem
    · exact h.names name hmem
    · obtain rfl := List.mem_singleton.mp hmem
      exact ⟨hpiece, hname⟩
  dirs names hnames := by
    rcases List.prefix_concat_iff.mp hnames with rfl | hshorter
    · exact hentry
    · exact h.dirs names hshorter

theorem HasDir.start (h : t.HasDir place) (p : Bytes) : t.HasDir (place.start p) := by
  unfold Place.start
  split
  · exact t.hasDir_root
  · exact h

theorem HasDir.path? (h : t.HasDir place) : place.path? = some (Path.ofNames place.names) :=
  if_pos h.lost

/-! ## Walks -/

/-- The walk stands on an existing directory after every piece; where a link is met, that is left
to what follows it. -/
theorem advance_hasDir {follow : Place → Bytes → Route → Except IoError Found}
    (hfollow : ∀ place path rest slash place', t.HasDir place → 0 ∉ path →
      (∀ piece ∈ rest, Path.IsPiece piece) → follow place path ⟨rest, slash⟩ = .ok (.dir place') →
      t.HasDir place')
    (hlinks : t.HasSoundLinks) {place' : Place} {pieces : List Name} {slash : Bool}
    (hplace : t.HasDir place) (hpieces : ∀ piece ∈ pieces, Path.IsPiece piece)
    (h : t.advance .find follow place pieces slash = .ok (.dir place')) : t.HasDir place' := by
  induction pieces generalizing place with
  | nil =>
      cases h
      exact hplace
  | cons piece rest ih =>
      obtain ⟨hpiece, hrest⟩ := List.forall_mem_cons.mp hpieces
      by_cases hhere : piece = Name.here
      · rw [advance, if_pos hhere] at h
        exact ih hplace hrest h
      by_cases habove : piece = Name.above
      · rw [advance, if_neg hhere, if_pos habove] at h
        exact ih hplace.parent hrest h
      by_cases hlength : Path.maxName < piece.length
      · rw [advance, if_neg hhere, if_neg habove,
          if_neg (fun hmake => Purpose.noConfusion hmake.1), if_neg (not_not_intro hplace.lost),
          if_pos hlength] at h
        cases h
      have hname : Path.CanName piece := ⟨hhere, habove, Nat.le_of_not_lt hlength⟩
      rw [advance_name hname hplace.lost] at h
      cases hentry : t.get? (place.names ++ [piece]) with
      | none =>
          rw [hentry] at h
          cases (of_ite_eq_ok h).2
      | some entry =>
          rw [hentry] at h
          cases entry with
          | dir => exact ih (hplace.child hpiece hname hentry) hrest h
          | link path => exact hfollow _ _ _ _ _ hplace (hlinks _ _ hentry) hrest h
          | file f => cases (of_ite_eq_ok h).2
          | device d => cases (of_ite_eq_ok h).2

theorem walk_hasDir (hlinks : t.HasSoundLinks) {links : Nat} {place' : Place}
    {pieces : List Name} {slash : Bool} (hplace : t.HasDir place)
    (hpieces : ∀ piece ∈ pieces, Path.IsPiece piece)
    (h : t.walk .find links place pieces slash = .ok (.dir place')) : t.HasDir place' := by
  induction links generalizing place pieces slash place' with
  | zero =>
      rw [walk] at h
      exact advance_hasDir (fun _ _ _ _ _ _ _ _ hend => by cases hend) hlinks hplace hpieces h
  | succ links ih =>
      rw [walk] at h
      refine advance_hasDir ?_ hlinks hplace hpieces h
      intro place path rest slash place' hplace hnul hrest hend
      refine ih (hplace.start path) ?_ hend
      intro piece hmem
      rcases List.mem_append.mp hmem with hmem | hmem
      · exact Path.isPiece_of_mem_parts hnul hmem
      · exact hrest piece hmem

/-- What is a directory from an existing directory exists. -/
theorem hasDir_of_directory (hlinks : t.HasSoundLinks) {cwd : Place} (hcwd : t.HasDir cwd)
    {p : Text} (h : t.directory cwd p = .ok place) : t.HasDir place := by
  obtain ⟨hnul, -, -, hwalk⟩ := reach_eq_ok_iff.mp (directory_eq_ok_iff_resolve.mp h)
  refine walk_hasDir hlinks (hcwd.start (Utf8.encode p)) ?_ hwalk
  exact fun piece hpiece => Path.isPiece_of_mem_parts hnul hpiece

/-! ## The way back -/

/-- The names of an existing directory lead to it, with no link to follow. -/
theorem walk_names {before names : Names} (h : t.HasDir ⟨before ++ names, 0⟩) (links : Nat)
    (slash : Bool) :
    t.walk .find links ⟨before, 0⟩ names slash = .ok (.dir ⟨before ++ names, 0⟩) := by
  rw [walk_eq_advance]
  induction names generalizing before with
  | nil =>
      rw [List.append_nil]
      rfl
  | cons name names ih =>
      have hname := (h.names name (List.mem_append_right before (List.mem_cons_self ..))).2
      rw [List.append_cons] at h ⊢
      rw [advance_name hname rfl, h.dirs _ (List.prefix_append ..)]
      exact ih h

theorem reach_ofNames (h : t.HasDir place)
    (hlength : (Path.ofNames place.names).length < Path.maxPath) (cwd : Place) :
    t.reach cwd .find (Path.ofNames place.names) = .ok (.dir place) := by
  obtain ⟨names, lost⟩ := place
  obtain rfl : lost = 0 := h.lost
  have hpieces : ∀ name ∈ names, Path.IsPiece name := fun name hname => (h.names name hname).1
  have habsolute := Path.head?_ofNames names
  refine reach_eq_ok_iff.mpr ⟨Path.nul_not_mem_ofNames hpieces, hlength, ?_, ?_⟩
  · intro hempty
    rw [hempty] at habsolute
    cases habsolute
  · rw [Route.ofPath, Path.parts_ofNames hpieces, Place.start, if_pos habsolute]
    have hnames : t.HasDir ⟨[] ++ names, 0⟩ := h
    exact walk_names hnames maxLinks _

theorem isPhysical_ofNames (h : t.HasDir place) : t.IsPhysical (Path.ofNames place.names) := by
  have hparts : Path.parts Path.slash (Path.ofNames place.names) = place.names :=
    Path.parts_ofNames fun name hname => (h.names name hname).1
  refine ⟨Path.head?_ofNames place.names, ?_, ?_⟩
  · rw [hparts]
    exact fun piece hpiece => ⟨(h.names piece hpiece).2.1, (h.names piece hpiece).2.2.1⟩
  · rw [hparts]
    exact h.dirs

/-- A path that is UTF-8 leads to its directory from everywhere, unless it is too long. -/
theorem directory_of_path? {q : Text} (hq : place.path? = some (Utf8.encode q))
    (h : t.HasDir place) (hlength : (Utf8.encode q).length < Path.maxPath) (cwd : Place) :
    t.directory cwd q = .ok place := by
  have hbytes : Utf8.encode q = Path.ofNames place.names :=
    Option.some.inj (hq.symm.trans h.path?)
  refine directory_eq_ok_iff_resolve.mpr ?_
  rw [resolve, hbytes]
  exact reach_ofNames h (hbytes ▸ hlength) cwd

/-! ## Trees with the same kinds -/

/-- Of the kinds, those of directories and links tell the entry. -/
theorem get?_of_sameKinds (h : t.SameKinds t') {q : Names} {entry : Entry}
    (hentry : entry = .dir ∨ ∃ path, entry = .link path) (hq : t.get? q = some entry) :
    t'.get? q = some entry := by
  have hkind : Kind.ofEntry? (t'.get? q) = Kind.ofEntry? (some entry) := by
    rw [← hq]
    exact h q
  cases hq' : t'.get? q with
  | none =>
      rw [hq'] at hkind
      rcases hentry with rfl | ⟨path, rfl⟩ <;> cases hkind
  | some entry' =>
      rw [hq'] at hkind
      cases entry' with
      | file f =>
          have hfile : Kind.ofEntry? (some (.file f)) = .program
              ∨ Kind.ofEntry? (some (.file f)) = .deadEnd := by
            simp only [Kind.ofEntry?]
            split
            · exact Or.inl rfl
            · exact Or.inr rfl
          rw [hkind] at hfile
          rcases hentry with rfl | ⟨path, rfl⟩ <;> rcases hfile with hfile | hfile <;> cases hfile
      | dir =>
          rcases hentry with rfl | ⟨path, rfl⟩
          · rfl
          · cases hkind
      | link path =>
          rcases hentry with rfl | ⟨path', rfl⟩
          · cases hkind
          · cases hkind
            rfl
      | device d => rcases hentry with rfl | ⟨path, rfl⟩ <;> cases hkind

theorem hasDir_of_sameKinds (h : t.SameKinds t') (hdir : t.HasDir place) : t'.HasDir place where
  lost := hdir.lost
  names := hdir.names
  dirs names hnames := get?_of_sameKinds h (Or.inl rfl) (hdir.dirs names hnames)

theorem hasSoundLinks_of_sameKinds (h : t.SameKinds t') (hlinks : t.HasSoundLinks) :
    t'.HasSoundLinks := by
  intro names path hlink
  have hback : t'.SameKinds t := fun q => (h q).symm
  exact hlinks names path (get?_of_sameKinds hback (Or.inr ⟨path, rfl⟩) hlink)

end FileTree
end LineShell
