import LineShell.Proofs.FileTree.FileNames

/-!
# Walks in parts

A piece of a way is a *stride*: it leads onto another directory, or to a link, or it stops the walk
(`stride`). A walk that still has links to follow where another one has none left goes on with it
otherwise (`walk_le`).

A walk of two parts goes through a directory at the end of the first part and takes the second part
from there (`walk_through`), and two walks of which the second starts where the first one ends make
a walk of both parts (`walk_onward`). For directories this says that a path with a relative one
appended leads to where the second one leads from where the first one leads, unless the two together
are too long or have too many links (`directory_append`, `directory_append_cases`).
-/

namespace LineShell

theorem Utf8.length_encode_le {p q : Text} (h : p <:+: q) :
    (encode p).length ≤ (encode q).length := by
  obtain ⟨before, after, rfl⟩ := h
  rw [encode_append, encode_append, List.length_append, List.length_append]
  omega

namespace FileTree

/-- How a walk that may follow so many links goes on at one. -/
def followLink (t : FileTree) (purpose : Purpose) :
    Nat → Place → Bytes → Route → Except IoError Found
  | 0, _, _, _ => .error (.system .linkLoop)
  | links + 1, place, path, rest =>
    t.walk purpose links (place.start path) ((Route.ofPath path).pieces ++ rest.pieces)
      (rest.slash || (rest.pieces.isEmpty && (Route.ofPath path).slash))

theorem walk_eq_advance (t : FileTree) (purpose : Purpose) (links : Nat) :
    t.walk purpose links = t.advance purpose (t.followLink purpose links) := by
  cases links <;> rfl

variable {t : FileTree}

theorem walk_nil (links : Nat) (place : Place) (slash : Bool) :
    t.walk .find links place [] slash = .ok (.dir place) := by
  rw [walk_eq_advance]
  rfl

/-! ## One piece -/

/-- What a piece does to a walk that starts with it, whatever follows. -/
inductive Stride (t : FileTree) (place : Place) (piece : Name) : Prop
  | onto (next : Place) (h : ∀ links rest slash,
      t.walk .find links place (piece :: rest) slash = t.walk .find links next rest slash)
  | link (path : Bytes) (h : ∀ links rest slash,
      t.walk .find links place (piece :: rest) slash
        = t.followLink .find links place path ⟨rest, slash⟩)
  /-- What is no directory ends a way, if it can be an end at all. -/
  | stop (answer : List Name → Bool → Except IoError Found)
      (h : ∀ links rest slash, t.walk .find links place (piece :: rest) slash = answer rest slash)
      (hend : ∀ rest slash found, answer rest slash = .ok found →
        rest = [] ∧ ∀ place, found ≠ .dir place)

theorem of_ite_eq_ok {c : Prop} [Decidable c] {e : IoError} {found found' : Found}
    (h : (if c then .ok found else .error e : Except IoError Found) = .ok found') :
    c ∧ found = found' := by
  split at h
  · next hc =>
      cases h
      exact ⟨hc, rfl⟩
  · cases h

theorem stride (t : FileTree) (place : Place) (piece : Name) : t.Stride place piece := by
  by_cases hhere : piece = Name.here
  · refine .onto place fun links rest slash => ?_
    rw [walk_eq_advance, advance, if_pos hhere]
  by_cases habove : piece = Name.above
  · refine .onto place.parent fun links rest slash => ?_
    rw [walk_eq_advance, advance, if_neg hhere, if_pos habove]
  by_cases hlost : place.lost ≠ 0
  · refine .stop (fun _ _ => .error (.system .noEntry)) (fun links rest slash => ?_)
      fun _ _ _ h => by cases h
    rw [walk_eq_advance, advance, if_neg hhere, if_neg habove,
      if_neg (fun hmake => Purpose.noConfusion hmake.1), if_pos hlost]
  by_cases hlength : Path.maxName < piece.length
  · refine .stop (fun _ _ => .error (.system .nameTooLong)) (fun links rest slash => ?_)
      fun _ _ _ h => by cases h
    rw [walk_eq_advance, advance, if_neg hhere, if_neg habove,
      if_neg (fun hmake => Purpose.noConfusion hmake.1), if_neg hlost, if_pos hlength]
  have hentry : ∀ links rest slash, t.walk .find links place (piece :: rest) slash
      = t.atEntry (t.followLink .find links) place (place.names ++ [piece]) rest slash
        (t.get? (place.names ++ [piece])) := by
    intro links rest slash
    rw [walk_eq_advance]
    exact advance_name ⟨hhere, habove, Nat.le_of_not_lt hlength⟩ (Decidable.not_not.mp hlost) _
      rest slash
  cases hfound : t.get? (place.names ++ [piece]) with
  | none =>
      simp only [hfound, atEntry] at hentry
      refine .stop _ hentry fun rest slash found h => ?_
      obtain ⟨hrest, rfl⟩ := of_ite_eq_ok h
      exact ⟨hrest, fun _ => Found.noConfusion⟩
  | some entry =>
      cases entry with
      | dir =>
          simp only [hfound, atEntry, ← walk_eq_advance] at hentry
          exact .onto _ hentry
      | link path =>
          simp only [hfound, atEntry] at hentry
          exact .link path hentry
      | file f =>
          simp only [hfound, atEntry] at hentry
          refine .stop _ hentry fun rest slash found h => ?_
          obtain ⟨hrest, rfl⟩ := of_ite_eq_ok h
          exact ⟨hrest.1, fun _ => Found.noConfusion⟩
      | device d =>
          simp only [hfound, atEntry] at hentry
          refine .stop _ hentry fun rest slash found h => ?_
          obtain ⟨hrest, rfl⟩ := of_ite_eq_ok h
          exact ⟨hrest.1, fun _ => Found.noConfusion⟩

/-- Induction along a walk: over the pieces up to a link, and there over the links that may still be
followed. -/
theorem walk_induction (t : FileTree) {motive : Nat → Place → List Name → Prop}
    (nil : ∀ links place, motive links place [])
    (onto : ∀ links place piece rest next, (∀ links rest slash,
        t.walk .find links place (piece :: rest) slash = t.walk .find links next rest slash) →
      motive links next rest → motive links place (piece :: rest))
    (link : ∀ links place piece rest path, (∀ links rest slash,
        t.walk .find links place (piece :: rest) slash
          = t.followLink .find links place path ⟨rest, slash⟩) →
      (∀ fewer, links = fewer + 1 → ∀ place pieces, motive fewer place pieces) →
      motive links place (piece :: rest))
    (stop : ∀ links place piece rest (answer : List Name → Bool → Except IoError Found),
        (∀ links rest slash,
          t.walk .find links place (piece :: rest) slash = answer rest slash) →
      (∀ rest slash found, answer rest slash = .ok found →
        rest = [] ∧ ∀ place, found ≠ .dir place) →
      motive links place (piece :: rest))
    (links : Nat) (place : Place) (pieces : List Name) : motive links place pieces := by
  induction links using Nat.strongRecOn generalizing place pieces with
  | _ links ihlinks =>
      induction pieces generalizing place with
      | nil => exact nil links place
      | cons piece rest ih =>
          cases t.stride place piece with
          | onto next h => exact onto links place piece rest next h (ih next)
          | link path h =>
              refine link links place piece rest path h ?_
              rintro fewer rfl
              exact ihlinks fewer (Nat.lt_succ_self fewer)
          | stop answer h hend => exact stop links place piece rest answer h hend

/-! ## Links to spare -/

theorem walk_le {links links' : Nat} (hle : links ≤ links') (place : Place) (pieces : List Name)
    (slash : Bool) :
    t.walk .find links place pieces slash = t.walk .find links' place pieces slash
      ∨ t.walk .find links place pieces slash = .error (.system .linkLoop) := by
  induction links, place, pieces using t.walk_induction generalizing links' slash with
  | nil links place => exact Or.inl (by rw [walk_nil, walk_nil])
  | onto links place piece rest next h ih =>
      rw [h, h]
      exact ih hle slash
  | link links place piece rest path h ih =>
      cases links with
      | zero => exact Or.inr (h 0 rest slash)
      | succ links =>
          obtain ⟨more, rfl⟩ := Nat.exists_eq_add_of_le' (Nat.lt_of_lt_of_le links.succ_pos hle)
          rw [h, h]
          exact ih links rfl _ _ (Nat.le_of_succ_le_succ hle) _
  | stop links place piece rest answer h _ => exact Or.inl (by rw [h, h])

theorem walk_of_le {links links' : Nat} (hle : links ≤ links') {place : Place}
    {pieces : List Name} {slash : Bool} {found : Found}
    (h : t.walk .find links place pieces slash = .ok found) :
    t.walk .find links' place pieces slash = .ok found := by
  rcases walk_le hle place pieces slash with hsame | hloop
  · rw [← hsame, h]
  · cases h.symm.trans hloop

/-! ## Ways of two parts -/

section Parts
variable {links links' : Nat} {place mid : Place} {first second : List Name}
  {slash slash' : Bool} {found : Found}

/-- The slash behind a way is the one behind its second part. -/
theorem followLink_append (hsecond : second ≠ []) (links : Nat) (place : Place) (path : Bytes)
    (first : List Name) (slash : Bool) :
    t.followLink .find (links + 1) place path ⟨first ++ second, slash⟩
      = t.walk .find links (place.start path) ((Route.ofPath path).pieces ++ first ++ second)
        slash := by
  have hempty : (first ++ second).isEmpty = false := by
    rw [List.isEmpty_eq_false_iff]
    exact List.append_ne_nil_of_right_ne_nil first hsecond
  rw [followLink, hempty, Bool.false_and, Bool.or_false, List.append_assoc]

theorem walk_through (hsecond : second ≠ [])
    (h : t.walk .find links place (first ++ second) slash = .ok found) :
    ∃ mid links', links' ≤ links
      ∧ (∀ slash', t.walk .find links place first slash' = .ok (.dir mid))
      ∧ t.walk .find links' mid second slash = .ok found := by
  induction links, place, first using t.walk_induction with
  | nil links place => exact ⟨place, links, Nat.le_refl links, walk_nil links place, h⟩
  | onto links place piece rest next hpiece ih =>
      simp only [List.cons_append, hpiece] at h ⊢
      exact ih h
  | link links place piece rest path hpiece ih =>
      rw [List.cons_append, hpiece] at h
      cases links with
      | zero => cases h
      | succ links =>
          rw [followLink_append hsecond] at h
          obtain ⟨mid, links', hle, hfirst, hlater⟩ := ih links rfl _ _ h
          refine ⟨mid, links', Nat.le_succ_of_le hle, fun slash' => ?_, hlater⟩
          rw [hpiece]
          exact hfirst _
  | stop links place piece rest answer hpiece hend =>
      have hrest := (hend _ _ _ ((hpiece _ _ _).symm.trans h)).1
      exact absurd hrest (List.append_ne_nil_of_right_ne_nil rest hsecond)

theorem walk_onward (hsecond : second ≠ [])
    (hfirst : t.walk .find links place first slash' = .ok (.dir mid))
    (hlater : t.walk .find links' mid second slash = .ok found) :
    t.walk .find (links + links') place (first ++ second) slash = .ok found := by
  induction links, place, first using t.walk_induction generalizing slash' with
  | nil links place =>
      rw [walk_nil] at hfirst
      cases hfirst
      exact walk_of_le (Nat.le_add_left links' links) hlater
  | onto links place piece rest next hpiece ih =>
      rw [hpiece] at hfirst
      rw [List.cons_append, hpiece]
      exact ih hfirst
  | link links place piece rest path hpiece ih =>
      rw [hpiece] at hfirst
      cases links with
      | zero => cases hfirst
      | succ links =>
          rw [List.cons_append, hpiece, Nat.succ_add, followLink_append hsecond]
          exact ih links rfl _ _ hfirst
  | stop links place piece rest answer hpiece hend =>
      exact absurd rfl ((hend _ _ _ ((hpiece _ _ _).symm.trans hfirst)).2 mid)

end Parts

/-! ## Directories -/

section Directories
variable {cwd place : Place} {p q : Text}

/-- An appended path leads on from where the first part leads. -/
theorem directory_append (hp : p ≠ []) (hne : q ≠ []) (hq : Path.isAbsolute q = false)
    (h : t.directory cwd (Path.append p q) = .ok place) :
    ∃ mid, t.directory cwd p = .ok mid ∧ t.directory mid q = .ok place := by
  obtain ⟨hnul, hlength, -, hwalk⟩ := resolve_eq_ok_iff.mp (directory_eq_ok_iff_resolve.mp h)
  have hinit := Path.prefix_append hp hq
  have hsuffix := Path.suffix_append p q
  rw [Names.ofText_append hq hp, Path.endsInSlash_append hq hp hne,
    Path.isAbsolute_append_relative hq hp] at hwalk
  obtain ⟨mid, links', hle, hfirst, hlater⟩ := walk_through (Names.ofText_ne_nil hne hq) hwalk
  refine ⟨mid, directory_eq_ok_iff_resolve.mpr (resolve_eq_ok_iff.mpr ⟨?_, ?_, hp, hfirst _⟩),
    directory_eq_ok_iff_resolve.mpr (resolve_eq_ok_iff.mpr ⟨?_, ?_, hne, ?_⟩)⟩
  · exact fun hmem => hnul (hinit.subset hmem)
  · exact Nat.lt_of_le_of_lt (Utf8.length_encode_le hinit.isInfix) hlength
  · exact fun hmem => hnul (hsuffix.subset hmem)
  · exact Nat.lt_of_le_of_lt (Utf8.length_encode_le hsuffix.isInfix) hlength
  · rw [hq, if_neg Bool.false_ne_true]
    exact walk_of_le hle hlater

/-- If both parts lead somewhere, the appended path leads there too unless it is too long or has
too many links on the way. -/
theorem directory_append_cases {mid : Place} (hq : Path.isAbsolute q = false)
    (hfirst : t.directory cwd p = .ok mid) (hlater : t.directory mid q = .ok place) :
    t.directory cwd (Path.append p q) = .ok place
      ∨ t.directory cwd (Path.append p q) = .error (.system .nameTooLong)
      ∨ t.directory cwd (Path.append p q) = .error (.system .linkLoop) := by
  obtain ⟨hnulp, -, hp, hwalkp⟩ := resolve_eq_ok_iff.mp (directory_eq_ok_iff_resolve.mp hfirst)
  obtain ⟨hnulq, -, hne, hwalkq⟩ := resolve_eq_ok_iff.mp (directory_eq_ok_iff_resolve.mp hlater)
  rw [hq, if_neg Bool.false_ne_true] at hwalkq
  have hnul : '\x00' ∉ Path.append p q := by
    intro hmem
    rcases Path.mem_append hmem with h | h | h
    · exact hnulp h
    · cases h
    · exact hnulq h
  have hwhole := walk_onward (Names.ofText_ne_nil hne hq) hwalkp hwalkq
  rw [← Names.ofText_append hq hp] at hwhole
  have hresolve : t.resolve cwd .find (Path.append p q)
      = if Path.maxPath ≤ (Utf8.encode (Path.append p q)).length then
          .error (.system .nameTooLong)
        else
          t.walk .find maxLinks (if Path.isAbsolute p then .root else cwd)
            (Names.ofText (Path.append p q)) (Path.endsInSlash q) := by
    have happend : Path.append p q ≠ [] := by
      intro hempty
      exact hp (List.prefix_nil.mp (hempty ▸ Path.prefix_append hp hq))
    rw [resolve_eq, if_neg hnul, if_neg happend, Path.endsInSlash_append hq hp hne,
      Path.isAbsolute_append_relative hq hp]
  by_cases hlength : Path.maxPath ≤ (Utf8.encode (Path.append p q)).length
  · right
    left
    rw [directory, hresolve, if_pos hlength]
  · rw [if_neg hlength] at hresolve
    rcases walk_le (Nat.le_add_right maxLinks maxLinks) (if Path.isAbsolute p then .root else cwd)
      (Names.ofText (Path.append p q)) (Path.endsInSlash q) with hsame | hloop
    · left
      rw [directory, hresolve, hsame, hwhole]
    · right
      right
      rw [directory, hresolve, hloop]

end Directories
end FileTree
end LineShell
