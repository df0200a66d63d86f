import LineShell.FileTree
import LineShell.IoError

/-!
# Walking a path

A path is walked piece by piece from the root or from the working directory. A link is followed by
walking its own path before the rest, and at most `maxLinks` links are followed in one walk. A walk
ends at a directory, at a file, at a device, or at a free place whose directory exists.

A walk has one of two purposes. To find something, a trailing slash demands a directory. To make a
file, a trailing slash after a name is refused whatever the name stands for, and a free place is a
good end.

A working directory may be removed while it is in use. It then has no entries and no path, but the
directory above it can still be reached from it.

No walk is refused for a lack of permissions: every directory on the way can be searched.
-/

namespace LineShell

/-! ## Places -/

/-- A directory that is in use: `lost` levels below a directory of the tree, all of them removed. -/
structure Place where
  names : Names
  lost : Nat := 0
  deriving Repr, DecidableEq

namespace Place

def root : Place := ⟨[], 0⟩

/-- The directory above; the root is its own. -/
def parent : Place → Place
  | ⟨names, 0⟩ => ⟨names.dropLast, 0⟩
  | ⟨names, lost + 1⟩ => ⟨names, lost⟩

/-- The absolute path of a directory that has not been removed. -/
def path? (p : Place) : Option Bytes :=
  if p.lost = 0 then some (Path.ofNames p.names) else none

/-- The directory after the entry at the given names, with all below it, was removed. -/
def afterRemoval (gone : Names) (p : Place) : Place :=
  if gone ≠ [] ∧ gone.isPrefixOf p.names then
    ⟨gone.dropLast, p.lost + (p.names.length - gone.length) + 1⟩
  else p

end Place

/-! ## Walks -/

/-- Where a walk ends. -/
inductive Found where
  | dir (place : Place)
  | file (names : Names) (f : File)
  | device (d : Device)
  /-- Nothing lies there, but the directory that could hold it exists. -/
  | free (names : Names)
  deriving Repr, DecidableEq

/-- What a walk is for. -/
inductive Purpose where
  | find
  | make
  deriving Repr, DecidableEq

/-- A way still to go: pieces, and whether a slash follows the last one. -/
structure Route where
  pieces : List Name
  slash : Bool
  deriving Repr, DecidableEq

def Route.ofPath (p : Bytes) : Route :=
  ⟨Path.parts Path.slash p, p.getLast? == some Path.slash⟩

/-- Where the walk of a path starts. -/
def Place.start (place : Place) (p : Bytes) : Place :=
  if p.head? = some Path.slash then .root else place

namespace FileTree

/-- The most links that are followed in one walk. -/
def maxLinks : Nat := 40

/-- Walks pieces from a directory. `follow` continues the walk at a link, from the directory that
holds it, with the link's path before the rest of the way. -/
def advance (t : FileTree) (purpose : Purpose)
    (follow : Place → Bytes → Route → Except IoError Found) :
    Place → List Name → Bool → Except IoError Found
  | place, [], _ => .ok (.dir place)
  | place, piece :: rest, slash =>
    if piece = Name.here then advance t purpose follow place rest slash
    else if piece = Name.above then advance t purpose follow place.parent rest slash
    else if purpose = .make ∧ rest = [] ∧ slash then .error (.system .isDirectory)
    else if place.lost ≠ 0 then .error (.system .noEntry)
    else if Path.maxName < piece.length then .error (.system .nameTooLong)
    else
      let names := place.names ++ [piece]
      match t.get? names with
      | none => if rest = [] then .ok (.free names) else .error (.system .noEntry)
      | some .dir => advance t purpose follow ⟨names, 0⟩ rest slash
      | some (.link path) => follow place path ⟨rest, slash⟩
      | some (.file f) =>
        if rest = [] ∧ !slash then .ok (.file names f) else .error (.system .notDirectory)
      | some (.device d) =>
        if rest = [] ∧ !slash then .ok (.device d) else .error (.system .notDirectory)

/-- Walks pieces from a directory, following at most the given number of links. A link that ends
the way hands on whether its own path ends in a slash. -/
def walk (t : FileTree) (purpose : Purpose) :
    Nat → Place → List Name → Bool → Except IoError Found
  | 0 => advance t purpose fun _ _ _ => .error (.system .linkLoop)
  | links + 1 => advance t purpose fun place path rest =>
    let route := Route.ofPath path
    walk t purpose links (place.start path) (route.pieces ++ rest.pieces)
      (rest.slash || (rest.pieces.isEmpty && route.slash))

/-- Walks a path as the system gets it. -/
def reach (t : FileTree) (cwd : Place) (purpose : Purpose) (p : Bytes) : Except IoError Found :=
  if 0 ∈ p then .error .nulInPath
  else if Path.maxPath ≤ p.length then .error (.system .nameTooLong)
  else if p = [] then .error (.system .noEntry)
  else
    let route := Route.ofPath p
    t.walk purpose maxLinks (cwd.start p) route.pieces route.slash

def resolve (t : FileTree) (cwd : Place) (purpose : Purpose) (p : Text) : Except IoError Found :=
  t.reach cwd purpose (Utf8.encode p)

theorem reach_eq_ok_iff {t : FileTree} {cwd : Place} {purpose : Purpose} {p : Bytes}
    {found : Found} :
    t.reach cwd purpose p = .ok found
      ↔ 0 ∉ p ∧ p.length < Path.maxPath ∧ p ≠ []
        ∧ t.walk purpose maxLinks (cwd.start p) (Route.ofPath p).pieces (Route.ofPath p).slash
          = .ok found := by
  unfold reach
  split
  · next hnul => exact iff_of_false nofun fun h => h.1 hnul
  next hnul =>
  split
  · next hlength => exact iff_of_false nofun fun h => Nat.not_le_of_lt h.2.1 hlength
  next hlength =>
  split
  · next hempty => exact iff_of_false nofun fun h => h.2.2.1 hempty
  next hempty =>
  exact ⟨fun h => ⟨hnul, Nat.lt_of_not_le hlength, hempty, h⟩, fun h => h.2.2.2⟩

/-! ## Questions about a path -/

/-- Whether a path leads, through links, to a regular file that may be executed. -/
def isExecutable (t : FileTree) (cwd : Place) (p : Text) : Bool :=
  match t.resolve cwd .find p with
  | .ok (.file _ f) => f.isExecutable
  | _ => false

/-- The directory that a path leads to. -/
def directory (t : FileTree) (cwd : Place) (p : Text) : Except IoError Place :=
  match t.resolve cwd .find p with
  | .error e => .error e
  | .ok (.dir place) => .ok place
  | .ok (.file _ _) => .error (.system .notDirectory)
  | .ok (.device _) => .error (.system .notDirectory)
  | .ok (.free _) => .error (.system .noEntry)

theorem directory_eq_ok_iff_resolve {t : FileTree} {cwd place : Place} {p : Text} :
    t.directory cwd p = .ok place ↔ t.resolve cwd .find p = .ok (.dir place) := by
  unfold directory
  cases t.resolve cwd .find p with
  | error e => simp
  | ok found => cases found <;> simp

end FileTree
end LineShell
