import LineShell.Proofs.Path.Spelling

/-!
# Where files are found

At a name, a walk goes on by what is there (`advance_name`). It comes to a file only at the end of
a route that ends in a name: the last piece is neither of the two that stand for directories, it is
short enough to be a name, and no slash follows it (`walk_file`). A link on the way does not matter,
for its path comes before the rest of the route.

So a path that is spelled as a directory leads to no file, whatever the tree: one that ends in a
slash, and one that ends in a dot after a slash (`Path.Trailed.not_endsInName`).
-/

namespace LineShell

/-- A piece that can be the name of a file. -/
def Path.CanName (piece : Name) : Prop :=
  piece ≠ Name.here ∧ piece ≠ Name.above ∧ piece.length ≤ maxName

/-- The route ends in a name, and no slash follows it. A route without pieces is at its end. -/
def Route.EndsInName (r : Route) : Prop :=
  r.slash = false ∧ ∀ piece ∈ r.pieces.getLast?, Path.CanName piece

theorem Route.EndsInName.rest {earlier later : List Name} {slash slash' : Bool}
    (h : EndsInName ⟨earlier ++ later, slash || slash'⟩) : EndsInName ⟨later, slash⟩ := by
  obtain ⟨hslash, hlast⟩ := h
  refine ⟨(Bool.or_eq_false_iff.mp hslash).1, fun piece hpiece => hlast piece ?_⟩
  rw [List.getLast?_append, Option.mem_def.mp hpiece]
  rfl

theorem Route.EndsInName.cons {piece : Name} {rest : List Name} {slash : Bool}
    (h : EndsInName ⟨rest, slash⟩) (hpiece : rest = [] → Path.CanName piece) :
    EndsInName ⟨piece :: rest, slash⟩ := by
  obtain ⟨hslash, hlast⟩ := h
  refine ⟨hslash, fun last hmem => ?_⟩
  cases rest with
  | nil =>
      cases hmem
      exact hpiece rfl
  | cons next rest => exact hlast last hmem

namespace FileTree

variable {t : FileTree}

/-! ## Walks -/

/-- How a walk goes on at a name, by what is there. -/
def atEntry (t : FileTree) (follow : Place → Bytes → Route → Except IoError Found) (place : Place)
    (names : Names) (rest : List Name) (slash : Bool) : Option Entry → Except IoError Found
  | none => if rest = [] then .ok (.free names) else .error (.system .noEntry)
  | some .dir => t.advance .find follow ⟨names, 0⟩ rest slash
  | some (.link path) => follow place path ⟨rest, slash⟩
  | some (.file f) =>
    if rest = [] ∧ !slash then .ok (.file names f) else .error (.system .notDirectory)
  | some (.device d) =>
    if rest = [] ∧ !slash then .ok (.device d) else .error (.system .notDirectory)

theorem advance_name {place : Place} {piece : Name} (hname : Path.CanName piece)
    (hlost : place.lost = 0) (follow : Place → Bytes → Route → Except IoError Found)
    (rest : List Name) (slash : Bool) :
    t.advance .find follow place (piece :: rest) slash
      = t.atEntry follow place (place.names ++ [piece]) rest slash
        (t.get? (place.names ++ [piece])) := by
  obtain ⟨hhere, habove, hlength⟩ := hname
  rw [advance, if_neg hhere, if_neg habove, if_neg (fun hmake => Purpose.noConfusion hmake.1),
    if_neg (not_not_intro hlost)]
  exact if_neg (Nat.not_lt_of_le hlength)

theorem advance_file {follow : Place → Bytes → Route → Except IoError Found}
    (hfollow : ∀ place path route names f, follow place path route = .ok (.file names f) →
      route.EndsInName)
    {place : Place} {pieces : List Name} {slash : Bool} {names : Names} {f : File}
    (h : t.advance .find follow place pieces slash = .ok (.file names f)) :
    pieces ≠ [] ∧ Route.EndsInName ⟨pieces, slash⟩ := by
  induction pieces generalizing place with
  | nil => cases h
  | cons piece rest ih =>
      refine ⟨List.cons_ne_nil piece rest, ?_⟩
      rw [advance] at h
      split at h
      · obtain ⟨hrest, hends⟩ := ih h
        exact hends.cons fun hnil => absurd hnil hrest
      next hhere =>
      split at h
      · obtain ⟨hrest, hends⟩ := ih h
        exact hends.cons fun hnil => absurd hnil hrest
      next habove =>
      rw [if_neg (fun hmake => Purpose.noConfusion hmake.1)] at h
      split at h
      · cases h
      split at h
      · cases h
      next hlength =>
      have hname : Path.CanName piece := ⟨hhere, habove, Nat.le_of_not_lt hlength⟩
      simp only at h
      split at h
      · split at h <;> cases h
      · exact (ih h).2.cons fun _ => hname
      · exact (hfollow _ _ _ _ _ h).cons fun _ => hname
      · split at h
        · next hlast =>
            obtain ⟨rfl, hslash⟩ := hlast
            have hends : Route.EndsInName ⟨[], slash⟩ :=
              ⟨by simpa using hslash, fun _ hmem => by cases hmem⟩
            exact hends.cons fun _ => hname
        · cases h
      · split at h <;> cases h

theorem walk_file {links : Nat} {place : Place} {pieces : List Name} {slash : Bool}
    {names : Names} {f : File} (h : t.walk .find links place pieces slash = .ok (.file names f)) :
    pieces ≠ [] ∧ Route.EndsInName ⟨pieces, slash⟩ := by
  induction links generalizing place pieces slash names f with
  | zero =>
      rw [walk] at h
      exact advance_file (fun _ _ _ _ _ hfollow => by cases hfollow) h
  | succ links ih =>
      rw [walk] at h
      exact advance_file (fun _ _ _ _ _ hfollow => (ih hfollow).2.rest) h

/-- The name of a file leads to it. -/
theorem walk_name {place : Place} {piece : Name} {f : File} (hname : Path.CanName piece)
    (hlost : place.lost = 0) (hfile : t.get? (place.names ++ [piece]) = some (.file f))
    (links : Nat) :
    t.walk .find links place [piece] false = .ok (.file (place.names ++ [piece]) f) := by
  have hadvance : ∀ follow, t.advance .find follow place [piece] false
      = .ok (.file (place.names ++ [piece]) f) := by
    intro follow
    rw [advance_name hname hlost, hfile]
    rfl
  cases links with
  | zero => rw [walk, hadvance]
  | succ links => rw [walk, hadvance]

theorem resolve_file {cwd : Place} {p : Text} {names : Names} {f : File}
    (h : t.resolve cwd .find p = .ok (.file names f)) :
    '\x00' ∉ p ∧ Route.EndsInName ⟨Names.ofText p, Path.endsInSlash p⟩ := by
  obtain ⟨hnul, -, -, hwalk⟩ := resolve_eq_ok_iff.mp h
  exact ⟨hnul, (walk_file hwalk).2⟩

end FileTree

/-! ## Spellings of directories -/

namespace Path

theorem endsInSlash_of_pieces_eq_nil {p : Text} (hp : p ≠ []) (h : pieces p = []) :
    endsInSlash p = true := by
  induction p with
  | nil => exact absurd rfl hp
  | cons c p ih =>
      cases habsolute : isAbsolute (c :: p) with
      | false => exact absurd h (pieces_ne_nil hp habsolute)
      | true =>
          have hc : c = '/' := by simpa using isAbsolute_iff.mp habsolute
          subst hc
          by_cases hempty : p = []
          · rw [hempty]
            rfl
          · rw [← List.singleton_append, endsInSlash_append_of_ne_nil _ hempty]
            exact ih hempty ((pieces_slash [] p).symm.trans h)

/-- A trailed component is spelled as a directory. -/
theorem Trailed.not_endsInName {component name : Text} (h : Trailed component name) :
    ¬ Route.EndsInName ⟨Names.ofText name, endsInSlash name⟩ := by
  rintro ⟨hslash, hlast⟩
  obtain ⟨-, -, trail, rfl, htrail⟩ := h
  by_cases hdots : pieces trail = []
  · have hends : endsInSlash ('/' :: trail) = true := by
      by_cases hempty : trail = []
      · rw [hempty]
        rfl
      · rw [← List.singleton_append, endsInSlash_append_of_ne_nil _ hempty]
        exact endsInSlash_of_pieces_eq_nil hempty hdots
    have hname : endsInSlash (component ++ '/' :: trail) = true :=
      (endsInSlash_append_of_ne_nil component (List.cons_ne_nil '/' trail)).trans hends
    cases hname.symm.trans hslash
  · obtain ⟨dot, hdot⟩ := Option.isSome_iff_exists.mp (List.getLast?_isSome.mpr hdots)
    have hmem : Utf8.encode dot ∈ (Names.ofText (component ++ '/' :: trail)).getLast? := by
      rw [Names.ofText, pieces_slash, List.getLast?_map, List.getLast?_append, hdot]
      rfl
    exact (hlast _ hmem).1 (congrArg Utf8.encode (htrail dot (List.mem_of_getLast? hdot)))

end Path
end LineShell
