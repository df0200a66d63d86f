import LineShell.Environment
import LineShell.Proofs.FileTree.Change

/-!
# Where walks get to

A walk that looks for a program or for a directory sees only the `Kind` of each place: a directory,
a link, a program, or a dead end, which is a free place, a device, and a file without an execute bit
alike. So trees with the same kinds have the same programs and the same directories, whatever the
path and wherever it starts (`arrival_resolve`); they find the same programs for every name
(`locate_of_sameKinds`).

Opening a path for output keeps all kinds (`sameKinds_create`): an emptied file keeps its mode, and
a new one has no execute bit, so it is as dead an end as the free place was before. So does writing
to what was opened (`sameKinds_write`).
-/

namespace LineShell

/-! ## Kinds and arrivals -/

/-- What a place is to a walk that looks for a program or for a directory. -/
inductive Kind where
  | dir
  | link (path : Bytes)
  | program
  | deadEnd

def Kind.ofEntry? : Option Entry → Kind
  | some .dir => .dir
  | some (.link path) => .link path
  | some (.file f) => if f.isExecutable then .program else .deadEnd
  | some (.device _) => .deadEnd
  | none => .deadEnd

/-- What a walk comes to, if that can be used at all. -/
inductive Arrival where
  | dir (place : Place)
  | program
  | nowhere
  deriving DecidableEq

def Arrival.ofResult : Except IoError Found → Arrival
  | .ok (.dir place) => .dir place
  | .ok (.file _ f) => if f.isExecutable then .program else .nowhere
  | .ok (.device _) => .nowhere
  | .ok (.free _) => .nowhere
  | .error _ => .nowhere

namespace FileTree

def kind (t : FileTree) (q : Names) : Kind := Kind.ofEntry? (t.get? q)

def SameKinds (t t' : FileTree) : Prop := ∀ q, t'.kind q = t.kind q

theorem SameKinds.refl (t : FileTree) : SameKinds t t := fun _ => rfl

theorem SameKinds.trans {t t' t'' : FileTree} (h : SameKinds t t') (h' : SameKinds t' t'') :
    SameKinds t t'' :=
  fun q => (h' q).trans (h q)

/-! ## Walks see kinds only -/

/-- A step of a walk by a name, told by the kind of the place that the name leads to. -/
theorem arrival_advance_name (t : FileTree) (purpose : Purpose)
    (follow : Place → Bytes → Route → Except IoError Found) {place : Place} {piece : Name}
    (rest : List Name) (slash : Bool) (hhere : piece ≠ Name.here) (habove : piece ≠ Name.above)
    (hmake : ¬ (purpose = .make ∧ rest = [] ∧ slash)) (hlost : ¬ place.lost ≠ 0)
    (hlength : ¬ Path.maxName < piece.length) :
    Arrival.ofResult (t.advance purpose follow place (piece :: rest) slash)
      = match t.kind (place.names ++ [piece]) with
        | .dir =>
          Arrival.ofResult (t.advance purpose follow ⟨place.names ++ [piece], 0⟩ rest slash)
        | .link path => Arrival.ofResult (follow place path ⟨rest, slash⟩)
        | .program => if rest = [] ∧ !slash then .program else .nowhere
        | .deadEnd => .nowhere := by
  rw [advance, if_neg hhere, if_neg habove, if_neg hmake, if_neg hlost, if_neg hlength,
    kind]
  dsimp only
  cases t.get? (place.names ++ [piece]) with
  | none =>
      simp only [Kind.ofEntry?]
      split <;> rfl
  | some entry =>
      cases entry with
      | dir => rfl
      | link path => rfl
      | device d =>
          simp only [Kind.ofEntry?]
          split <;> rfl
      | file f =>
          by_cases hexec : f.isExecutable
          · simp only [Kind.ofEntry?, if_pos hexec]
            split
            · exact if_pos hexec
            · rfl
          · simp only [Kind.ofEntry?, if_neg hexec]
            split
            · exact if_neg hexec
            · rfl

theorem arrival_advance {t t' : FileTree} (h : SameKinds t t') (purpose : Purpose)
    {follow follow' : Place → Bytes → Route → Except IoError Found}
    (hfollow : ∀ place path route, Arrival.ofResult (follow' place path route)
      = Arrival.ofResult (follow place path route)) (place : Place) (pieces : List Name)
    (slash : Bool) : Arrival.ofResult (t'.advance purpose follow' place pieces slash)
      = Arrival.ofResult (t.advance purpose follow place pieces slash) := by
  induction pieces generalizing place with
  | nil => rfl
  | cons piece rest ih =>
      by_cases hhere : piece = Name.here
      · simp only [advance, if_pos hhere, ih]
      by_cases habove : piece = Name.above
      · simp only [advance, if_neg hhere, if_pos habove, ih]
      by_cases hmake : purpose = .make ∧ rest = [] ∧ slash
      · simp only [advance, if_neg hhere, if_neg habove, if_pos hmake]
      by_cases hlost : place.lost ≠ 0
      · simp only [advance, if_neg hhere, if_neg habove, if_neg hmake, if_pos hlost]
      by_cases hlength : Path.maxName < piece.length
      · simp only [advance, if_neg hhere, if_neg habove, if_neg hmake, if_neg hlost,
          if_pos hlength]
      rw [arrival_advance_name t' purpose follow' rest slash hhere habove hmake hlost hlength,
        arrival_advance_name t purpose follow rest slash hhere habove hmake hlost hlength, h]
      cases t.kind (place.names ++ [piece]) with
      | dir => exact ih ⟨place.names ++ [piece], 0⟩
      | link path => exact hfollow place path ⟨rest, slash⟩
      | program => rfl
      | deadEnd => rfl

theorem arrival_walk {t t' : FileTree} (h : SameKinds t t') (purpose : Purpose) (links : Nat)
    (place : Place) (pieces : List Name) (slash : Bool) :
    Arrival.ofResult (t'.walk purpose links place pieces slash)
      = Arrival.ofResult (t.walk purpose links place pieces slash) := by
  induction links generalizing place pieces slash with
  | zero =>
      rw [walk, walk]
      exact arrival_advance h purpose (fun _ _ _ => rfl) place pieces slash
  | succ links ih =>
      rw [walk, walk]
      exact arrival_advance h purpose (fun _ _ _ => ih _ _ _) place pieces slash

theorem arrival_resolve {t t' : FileTree} (h : SameKinds t t') (cwd : Place) (purpose : Purpose)
    (p : Text) :
    Arrival.ofResult (t'.resolve cwd purpose p) = Arrival.ofResult (t.resolve cwd purpose p) := by
  unfold resolve reach
  split
  · rfl
  · split
    · rfl
    · split
      · rfl
      · exact arrival_walk h purpose maxLinks _ _ _

/-! ## Programs and directories -/

theorem isExecutable_iff {t : FileTree} {cwd : Place} {p : Text} :
    t.isExecutable cwd p = true ↔ Arrival.ofResult (t.resolve cwd .find p) = .program := by
  unfold isExecutable
  cases t.resolve cwd .find p with
  | error e => simp [Arrival.ofResult]
  | ok found => cases found <;> simp [Arrival.ofResult]

theorem directory_eq_ok_iff {t : FileTree} {cwd place : Place} {p : Text} :
    t.directory cwd p = .ok place
      ↔ Arrival.ofResult (t.resolve cwd .find p) = .dir place := by
  unfold directory
  cases t.resolve cwd .find p with
  | error e => simp [Arrival.ofResult]
  | ok found =>
      cases found with
      | file names f =>
          simp only [Arrival.ofResult, reduceCtorEq, false_iff]
          split <;> exact fun h => Arrival.noConfusion h
      | _ => simp [Arrival.ofResult]

theorem isExecutable_of_sameKinds {t t' : FileTree} (h : SameKinds t t') (cwd : Place) :
    t'.isExecutable cwd = t.isExecutable cwd := by
  funext p
  rw [Bool.eq_iff_iff, isExecutable_iff, isExecutable_iff, arrival_resolve h]

theorem directory_of_sameKinds {t t' : FileTree} (h : SameKinds t t') (cwd place : Place)
    (p : Text) : t'.directory cwd p = .ok place ↔ t.directory cwd p = .ok place := by
  rw [directory_eq_ok_iff, directory_eq_ok_iff, arrival_resolve h]

theorem locate_of_sameKinds {t t' : FileTree} (h : SameKinds t t') (cwd : Place)
    (searchPath name : Text) : t'.locate cwd searchPath name = t.locate cwd searchPath name := by
  unfold locate search
  rw [isExecutable_of_sameKinds h]

/-! ## Opening and writing keep kinds -/

theorem sameKinds_insert {t : FileTree} {p : Names} {e : Entry} (hp : p ≠ [])
    (h : Kind.ofEntry? (some e) = t.kind p) : SameKinds t (t.insert p e) := by
  intro q
  rw [kind, get?_insert t hp]
  split
  · next hq => rw [h, hq]
  · rfl

theorem sameKinds_create {t t' : FileTree} {cwd : Place} {p : Text} {d : Destination}
    (h : t.create cwd p = .ok (d, t')) : SameKinds t t' := by
  have hplace := create_place h
  unfold create at h
  split at h <;> cases h
  · exact SameKinds.refl t
  · next names f hfound =>
      have hlies : t.get? names = some (.file f) := resolve_liesIn hfound
      refine sameKinds_insert (outputPlace_ne_nil hplace.symm) ?_
      rw [kind, hlies]
      rfl
  · next names hfound =>
      have hlies : t.get? names = none := resolve_liesIn hfound
      refine sameKinds_insert (outputPlace_ne_nil hplace.symm) ?_
      rw [kind, hlies]
      rfl

theorem isExecutable_extend (f : File) (bs : Bytes) :
    (f.extend bs).isExecutable = f.isExecutable := by
  have hmode : (f.extend bs).mode = f.mode := by
    unfold File.extend
    split <;> rfl
  rw [File.isExecutable, hmode]
  rfl

theorem sameKinds_write (t : FileTree) (d : Destination) (bs : Bytes) :
    SameKinds t (t.write d bs).2 := by
  cases d with
  | device d =>
      cases d with
      | null => exact SameKinds.refl t
      | full =>
          simp only [write]
          split <;> exact SameKinds.refl t
  | file names =>
      simp only [write]
      split
      · next f hfile =>
          have hnames : names ≠ [] := by
            rintro rfl
            cases t.get?_root.symm.trans hfile
          refine sameKinds_insert hnames ?_
          rw [kind, hfile, Kind.ofEntry?, Kind.ofEntry?, isExecutable_extend]
      · exact SameKinds.refl t

end FileTree
end LineShell
