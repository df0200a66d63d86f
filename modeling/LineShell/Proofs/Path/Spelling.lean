import LineShell.FileTree.Walk
import LineShell.Proofs.Path.Pieces
import LineShell.Proofs.Utf8.Lossy

/-!
# Paths as the system gets them

The system gets a typed path as its encoding. No character but a slash has a slash among its bytes,
so the way that the bytes spell is the one that the text spells: the pieces are the encoded pieces
of the text (`parts_encode`), and the first and the last character say where the way starts and
whether it ends in a slash. `resolve_eq` tells by the text what becomes of a path.
-/

namespace LineShell

namespace Path

theorem byte_slash : Utf8.byte '/'.toNat = slash := rfl

theorem slash_mem_encode {p : Text} : slash ∈ Utf8.encode p ↔ '/' ∈ p :=
  Utf8.mem_encode_ascii (a := '/') (by decide)

theorem nul_mem_encode {p : Text} : 0 ∈ Utf8.encode p ↔ '\x00' ∈ p :=
  Utf8.mem_encode_ascii (a := '\x00') (by decide)

theorem head?_encode {p : Text} : (Utf8.encode p).head? = some slash ↔ isAbsolute p = true := by
  rw [isAbsolute_iff]
  exact Utf8.head?_encode_ascii (a := '/') (by decide)

theorem getLast?_encode (p : Text) :
    ((Utf8.encode p).getLast? == some slash) = endsInSlash p := by
  rw [Bool.eq_iff_iff, beq_iff_eq, endsInSlash_iff]
  exact Utf8.getLast?_encode_ascii (a := '/') (by decide)

theorem parts_encode (p : Text) : parts slash (Utf8.encode p) = Names.ofText p := by
  rw [Names.ofText]
  induction p using cut_induction '/' with
  | nil => rfl
  | last p hp hslash =>
      rw [pieces_of_not_mem hp hslash, List.map_singleton]
      exact parts_of_not_mem (mt Utf8.encode_eq_nil.mp hp) (mt slash_mem_encode.mp hslash)
  | cut first rest hfirst ih =>
      have hbytes : Utf8.encode (first ++ '/' :: rest)
          = Utf8.encode first ++ slash :: Utf8.encode rest := by
        rw [Utf8.encode_append, Utf8.encode_cons, Utf8.encodeChar_ascii (by decide), byte_slash]
        rfl
      rw [hbytes, parts_slash, pieces_slash, List.map_append, ih]
      by_cases hempty : first = []
      · rw [hempty]
        rfl
      · rw [pieces_of_not_mem hempty hfirst, parts_of_not_mem
          (mt Utf8.encode_eq_nil.mp hempty) (mt slash_mem_encode.mp hfirst)]
        rfl

end Path

theorem Route.ofPath_encode (p : Text) :
    Route.ofPath (Utf8.encode p) = ⟨Names.ofText p, Path.endsInSlash p⟩ := by
  rw [ofPath, Path.parts_encode, Path.getLast?_encode]

theorem Place.start_encode (place : Place) (p : Text) :
    place.start (Utf8.encode p) = if Path.isAbsolute p then .root else place := by
  simp only [start, Path.head?_encode]

namespace Names

theorem ofText_ne_nil {p : Text} (hp : p ≠ []) (h : Path.isAbsolute p = false) :
    ofText p ≠ [] :=
  mt List.map_eq_nil_iff.mp (Path.pieces_ne_nil hp h)

theorem ofText_append {p q : Text} (hq : Path.isAbsolute q = false) (hp : p ≠ []) :
    ofText (Path.append p q) = ofText p ++ ofText q := by
  rw [ofText, Path.pieces_append hq hp, List.map_append]
  rfl

end Names

namespace FileTree

variable {t : FileTree} {cwd : Place} {purpose : Purpose} {p : Text} {found : Found}

theorem resolve_eq :
    t.resolve cwd purpose p
      = if '\x00' ∈ p then .error .nulInPath
        else if Path.maxPath ≤ (Utf8.encode p).length then .error (.system .nameTooLong)
        else if p = [] then .error (.system .noEntry)
        else t.walk purpose maxLinks (if Path.isAbsolute p then .root else cwd) (Names.ofText p)
          (Path.endsInSlash p) := by
  simp only [resolve, reach, Path.nul_mem_encode, Utf8.encode_eq_nil, Route.ofPath_encode,
    Place.start_encode]

theorem resolve_eq_ok_iff :
    t.resolve cwd purpose p = .ok found
      ↔ '\x00' ∉ p ∧ (Utf8.encode p).length < Path.maxPath ∧ p ≠ []
        ∧ t.walk purpose maxLinks (if Path.isAbsolute p then .root else cwd) (Names.ofText p)
          (Path.endsInSlash p) = .ok found := by
  rw [resolve, reach_eq_ok_iff, Path.nul_mem_encode, ne_eq, Utf8.encode_eq_nil,
    Route.ofPath_encode, Place.start_encode]

end FileTree
end LineShell
