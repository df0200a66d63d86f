import LineShell.FileTree
import LineShell.Proofs.Text.Split

/-!
# The pieces of paths

A path that is cut at a slash has the pieces of both parts (`pieces_slash`), and so has a path with
a relative one appended (`pieces_append`). The first of them decides whether it is absolute
(`isAbsolute_append`), the second whether it ends in a slash (`endsInSlash_append`). The path of a
directory has the names that lead to the directory as its pieces (`parts_ofNames`).

A name with a slash has a sole component if it is `Trailed` by nothing but slashes and dots that
stand alone (`soleComponent?_eq_some_iff`).
-/

namespace LineShell.Path

/-! ## Cutting at slashes -/

section
variable {α : Type} [DecidableEq α] {slash : α}

theorem parts_slash (p q : List α) :
    parts slash (p ++ slash :: q) = parts slash p ++ parts slash q := by
  rw [parts, parts, parts, Text.split_eq_splitOn, Text.split_eq_splitOn, Text.split_eq_splitOn,
    Text.splitOn_append, List.filter_append]

theorem parts_of_not_mem {p : List α} (hp : p ≠ []) (h : slash ∉ p) : parts slash p = [p] := by
  rw [parts, Text.split_of_not_mem h, List.filter_cons_of_pos (by simpa using hp),
    List.filter_nil]

/-- Induction on where a path is cut first. -/
theorem cut_induction (slash : α) {motive : List α → Prop} (nil : motive [])
    (last : ∀ p, p ≠ [] → slash ∉ p → motive p)
    (cut : ∀ first rest, slash ∉ first → motive rest → motive (first ++ slash :: rest))
    (p : List α) : motive p := by
  induction hlength : p.length using Nat.strongRecOn generalizing p with
  | _ n ih =>
      by_cases hslash : slash ∈ p
      · obtain ⟨first, rest, rfl, hfirst⟩ := List.eq_append_cons_of_mem hslash
        refine cut first rest hfirst (ih rest.length ?_ rest rfl)
        rw [← hlength, List.length_append, List.length_cons]
        omega
      · by_cases hp : p = []
        · exact hp ▸ nil
        · exact last p hp hslash

end

theorem pieces_slash (p q : Text) : pieces (p ++ '/' :: q) = pieces p ++ pieces q :=
  parts_slash p q

theorem pieces_of_not_mem {p : Text} (hp : p ≠ []) (h : '/' ∉ p) : pieces p = [p] :=
  parts_of_not_mem hp h

/-- A path that does not begin with a slash begins with a piece. -/
theorem pieces_ne_nil {p : Text} (hp : p ≠ []) (h : isAbsolute p = false) : pieces p ≠ [] := by
  by_cases hslash : '/' ∈ p
  · obtain ⟨first, rest, rfl, hfirst⟩ := List.eq_append_cons_of_mem hslash
    have hne : first ≠ [] := by
      rintro rfl
      cases h
    rw [pieces_slash, pieces_of_not_mem hne hfirst]
    exact List.cons_ne_nil _ _
  · rw [pieces_of_not_mem hp hslash]
    exact List.cons_ne_nil _ _

theorem isAbsolute_iff {p : Text} : isAbsolute p = true ↔ p.head? = some '/' := by
  unfold isAbsolute
  split
  · exact iff_of_true rfl rfl
  · next h =>
      refine iff_of_false Bool.false_ne_true fun hhead => ?_
      obtain ⟨rest, hp⟩ := List.head?_eq_some_iff.mp hhead
      exact h rest hp

theorem endsInSlash_iff {p : Text} : endsInSlash p = true ↔ p.getLast? = some '/' := by
  rw [endsInSlash, beq_iff_eq]

theorem slash_mem_of_isAbsolute {p : Text} (h : isAbsolute p = true) : '/' ∈ p :=
  List.mem_of_head? (isAbsolute_iff.mp h)

theorem isAbsolute_of_not_mem {p : Text} (h : '/' ∉ p) : isAbsolute p = false :=
  Bool.eq_false_iff.mpr fun habsolute => h (slash_mem_of_isAbsolute habsolute)

theorem isAbsolute_append_of_ne_nil {p : Text} (hp : p ≠ []) (q : Text) :
    isAbsolute (p ++ q) = isAbsolute p := by
  rw [Bool.eq_iff_iff, isAbsolute_iff, isAbsolute_iff, List.head?_append,
    List.head?_eq_some_head hp, Option.some_or]

theorem endsInSlash_append_of_ne_nil (p : Text) {q : Text} (hq : q ≠ []) :
    endsInSlash (p ++ q) = endsInSlash q := by
  rw [endsInSlash, endsInSlash, List.getLast?_append, List.getLast?_eq_some_getLast hq,
    Option.some_or]

/-! ## Appending -/

section Append
variable {p q : Text}

theorem slash_mem_append (hp : p ≠ []) (q : Text) : '/' ∈ append p q := by
  unfold append
  split
  · next hq => exact slash_mem_of_isAbsolute hq
  · split
    · next hjoin =>
        have hlast := endsInSlash_iff.mp (hjoin.resolve_left hp)
        exact List.mem_append_left q (List.mem_of_getLast? hlast)
    · exact List.mem_append_right p (List.mem_cons_self ..)

theorem isAbsolute_append (h : isAbsolute p = true) (q : Text) :
    isAbsolute (append p q) = true := by
  unfold append
  split
  · next hq => exact hq
  · unfold isAbsolute at h
    split at h
    · split <;> rfl
    · cases h

theorem append_of_endsInSlash (hq : isAbsolute q = false) (h : endsInSlash p = true) :
    append p q = p ++ q := by
  rw [append, if_neg (by rw [hq]; exact Bool.false_ne_true), if_pos (Or.inr h)]

theorem append_of_not_endsInSlash (hq : isAbsolute q = false) (hp : p ≠ [])
    (h : endsInSlash p = false) : append p q = p ++ '/' :: q := by
  rw [append, if_neg (by rw [hq]; exact Bool.false_ne_true), if_neg]
  rw [h, not_or]
  exact ⟨hp, Bool.false_ne_true⟩

theorem suffix_append (p q : Text) : q <:+ append p q := by
  unfold append
  split
  · exact List.suffix_rfl
  · split
    · exact List.suffix_append p q
    · exact (List.suffix_cons '/' q).trans (List.suffix_append p _)

theorem prefix_append (hp : p ≠ []) (hq : isAbsolute q = false) : p <+: append p q := by
  cases hends : endsInSlash p with
  | false => rw [append_of_not_endsInSlash hq hp hends]; exact List.prefix_append p _
  | true => rw [append_of_endsInSlash hq hends]; exact List.prefix_append p q

theorem mem_append {c : Char} (h : c ∈ append p q) : c ∈ p ∨ c = '/' ∨ c ∈ q := by
  unfold append at h
  split at h
  · exact Or.inr (Or.inr h)
  · split at h
    · exact (List.mem_append.mp h).imp_right Or.inr
    · exact (List.mem_append.mp h).imp_right List.mem_cons.mp

theorem pieces_append (hq : isAbsolute q = false) (hp : p ≠ []) :
    pieces (append p q) = pieces p ++ pieces q := by
  cases hends : endsInSlash p with
  | false => rw [append_of_not_endsInSlash hq hp hends, pieces_slash]
  | true =>
      obtain ⟨dir, rfl⟩ := List.getLast?_eq_some_iff.mp (endsInSlash_iff.mp hends)
      rw [append_of_endsInSlash hq hends, List.append_assoc, List.singleton_append, pieces_slash,
        pieces_slash]
      exact congrArg (· ++ pieces q) (List.append_nil (pieces dir)).symm

theorem isAbsolute_append_relative (hq : isAbsolute q = false) (hp : p ≠ []) :
    isAbsolute (append p q) = isAbsolute p := by
  cases hends : endsInSlash p with
  | false => rw [append_of_not_endsInSlash hq hp hends, isAbsolute_append_of_ne_nil hp]
  | true => rw [append_of_endsInSlash hq hends, isAbsolute_append_of_ne_nil hp]

theorem endsInSlash_append (hq : isAbsolute q = false) (hp : p ≠ []) (hne : q ≠ []) :
    endsInSlash (append p q) = endsInSlash q := by
  cases hends : endsInSlash p with
  | false =>
      rw [append_of_not_endsInSlash hq hp hends, List.append_cons,
        endsInSlash_append_of_ne_nil _ hne]
  | true => rw [append_of_endsInSlash hq hends, endsInSlash_append_of_ne_nil _ hne]

end Append

/-! ## Paths of directories -/

/-- What can stand between the slashes of a path without a NUL byte. -/
structure IsPiece (piece : Name) : Prop where
  ne_nil : piece ≠ []
  slash : slash ∉ piece
  nul : 0 ∉ piece

theorem isPiece_of_mem_parts {p piece : Bytes} (hnul : 0 ∉ p) (h : piece ∈ parts slash p) :
    IsPiece piece := by
  obtain ⟨hmem, hne⟩ := List.mem_filter.mp h
  obtain ⟨hslash, hsubset⟩ := Text.of_mem_split hmem
  exact ⟨of_decide_eq_true hne, hslash, fun hpiece => hnul (hsubset hpiece)⟩

section
variable {names : Names}

theorem head?_ofNames (names : Names) : (ofNames names).head? = some slash := by
  cases names with
  | nil => rfl
  | cons name names => rfl

theorem nul_not_mem_ofNames (h : ∀ name ∈ names, IsPiece name) : 0 ∉ ofNames names := by
  have hnames : 0 ∉ names.flatMap (slash :: ·) := by
    intro hmem
    obtain ⟨name, hname, hnul⟩ := List.mem_flatMap.mp hmem
    rcases List.mem_cons.mp hnul with hslash | hnul
    · exact absurd hslash (by decide)
    · exact (h name hname).nul hnul
  cases names with
  | nil => decide
  | cons name names => exact hnames

/-- The path of a directory has the directory's names as its pieces. -/
theorem parts_ofNames (h : ∀ name ∈ names, IsPiece name) : parts slash (ofNames names) = names := by
  have hnames : parts slash (names.flatMap (slash :: ·)) = names := by
    induction names with
    | nil => rfl
    | cons name names ih =>
        obtain ⟨hname, hrest⟩ := List.forall_mem_cons.mp h
        have hsole := parts_of_not_mem hname.ne_nil hname.slash
        rw [List.flatMap_cons, List.cons_append]
        refine (parts_slash [] _).trans ?_
        cases names with
        | nil => rw [List.flatMap_nil, List.append_nil, hsole]; rfl
        | cons next names =>
            have hslash : parts slash ([] ++ slash :: (next ++ names.flatMap (slash :: ·)))
                = parts slash (next ++ names.flatMap (slash :: ·)) := parts_slash [] _
            rw [List.flatMap_cons, List.cons_append] at ih ⊢
            rw [parts_slash name, hsole, ← ih hrest]
            exact congrArg (name :: ·) hslash.symm
  cases names with
  | nil => rfl
  | cons name names => exact hnames

end

/-! ## Sole components -/

/-- A name without a slash is searched for as it is. -/
theorem soleComponent?_of_not_mem {p : Text} (hp : p ≠ []) (h : '/' ∉ p) :
    soleComponent? p = some p := by
  rw [soleComponent?, isAbsolute_of_not_mem h, if_neg Bool.false_ne_true, pieces_of_not_mem hp h]
  rfl

/-- The name is a component with a slash behind it, and after that only slashes and dots that stand
alone. -/
def Trailed (component name : Text) : Prop :=
  component ≠ [] ∧ '/' ∉ component
    ∧ ∃ trail, name = component ++ '/' :: trail ∧ ∀ piece ∈ pieces trail, piece = here

theorem Trailed.pieces_eq {component name : Text} (h : Trailed component name) :
    isAbsolute name = false
      ∧ ∃ dots, pieces name = component :: dots ∧ ∀ piece ∈ dots, piece = here := by
  obtain ⟨hne, hslash, trail, rfl, htrail⟩ := h
  refine ⟨?_, pieces trail, ?_, htrail⟩
  · rw [isAbsolute_append_of_ne_nil hne]
    exact isAbsolute_of_not_mem hslash
  · rw [pieces_slash, pieces_of_not_mem hne hslash]
    rfl

theorem soleComponent?_eq_some_iff {name : Text} (hslash : '/' ∈ name) {component : Text} :
    soleComponent? name = some component ↔ Trailed component name := by
  constructor
  · intro h
    unfold soleComponent? at h
    obtain ⟨first, rest, rfl, hfirst⟩ := List.eq_append_cons_of_mem hslash
    split at h
    · cases h
    · next habsolute =>
        have hne : first ≠ [] := by
          rintro rfl
          exact habsolute rfl
        rw [pieces_slash, pieces_of_not_mem hne hfirst] at h
        simp only [List.singleton_append] at h
        split at h
        · next hdots =>
            cases h
            exact ⟨hne, hfirst, rest, rfl, by simpa using hdots⟩
        · cases h
  · intro h
    obtain ⟨habsolute, dots, hpieces, hdots⟩ := h.pieces_eq
    rw [soleComponent?, habsolute, if_neg Bool.false_ne_true, hpieces]
    simpa using hdots

end LineShell.Path
