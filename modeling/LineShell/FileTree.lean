import LineShell.Path

/-!
# File trees

A file tree maps the places below the root to what lies there. A place is the list of names that
lead to it from the root, so every entry has one place and a place says by itself which directory
it is in. The root is always a directory and is not stored. Permissions are those of files to be
executed; directories have none, for the shell is taken to be allowed to search and to change all of
them.

The operations are look-up, insertion and removal; `get?_insert` and `get?_remove` say what they do
to every look-up.
-/

namespace LineShell

/-- The name of an entry in its directory. -/
abbrev Name := Bytes

/-- The name under which a directory has itself. -/
def Name.here : Name := Utf8.encode Path.here

/-- The name under which a directory has the one above it. -/
def Name.above : Name := Utf8.encode Path.above

/-- Names that lead from the root to an entry. -/
abbrev Names := List Name

/-- The names that a text spells, with slashes between them. -/
def Names.ofText (p : Text) : Names := (Path.pieces p).map Utf8.encode

inductive Content where
  | bytes (data : Bytes)
  /-- The image of a program, which the system can start. -/
  | image (program : Nat)
  deriving Repr, DecidableEq

structure File where
  content : Content
  mode : Nat
  deriving Repr, DecidableEq

namespace File

/-- The permission bits of a file that a redirect creates: it cannot be executed. -/
def plainMode : Nat := 0o644

def isExecutable (f : File) : Bool :=
  f.mode &&& 0o111 ≠ 0

/-- The file with nothing in it; its permissions stay. -/
def truncate (f : File) : File :=
  { f with content := .bytes [] }

/-- The file with bytes added at its end. Nothing can be added to a program image as it stands:
the bytes then begin a new content. -/
def extend (f : File) (bs : Bytes) : File :=
  match f.content with
  | .bytes data => { f with content := .bytes (data ++ bs) }
  | .image _ => { f with content := .bytes bs }

end File

/-- Files that are no storage. -/
inductive Device where
  /-- Takes every byte and keeps none. -/
  | null
  /-- Refuses every byte. -/
  | full
  deriving Repr, DecidableEq

/-- What lies at a place. -/
inductive Entry where
  | dir
  | file (f : File)
  | link (path : Bytes)
  | device (d : Device)
  deriving Repr, DecidableEq

structure FileTree where
  entries : List (Names × Entry) := []
  deriving Repr, DecidableEq

namespace FileTree

def get? (t : FileTree) (p : Names) : Option Entry :=
  if p = [] then some .dir else t.entries.lookup p

/-- The tree with an entry put at a place, instead of what was there. -/
def insert (t : FileTree) (p : Names) (e : Entry) : FileTree :=
  ⟨(p, e) :: t.entries.filter (·.1 ≠ p)⟩

/-- The tree without a place and all that is below it. -/
def remove (t : FileTree) (p : Names) : FileTree :=
  ⟨t.entries.filter fun x => !p.isPrefixOf x.1⟩

/-! ## Look-up laws -/

theorem lookup_filter {α β : Type} [BEq α] [LawfulBEq α] (keep : α → Bool) (k : α) :
    ∀ l : List (α × β),
      (l.filter fun x => keep x.1).lookup k = if keep k then l.lookup k else none
  | [] => by simp
  | (a, b) :: l => by
    have ih := lookup_filter keep k l
    by_cases hk : k = a
    · subst hk
      by_cases hp : keep k <;> simp [hp, ih]
    · have hb : (k == a) = false := by simpa using hk
      by_cases hp : keep a <;> simp [List.lookup_cons, hp, hb, ih]

@[simp] theorem get?_root (t : FileTree) : t.get? [] = some .dir := by
  simp [get?]

theorem get?_insert (t : FileTree) {p : Names} (hp : p ≠ []) (e : Entry) (q : Names) :
    (t.insert p e).get? q = if q = p then some e else t.get? q := by
  by_cases hq : q = []
  · subst hq; simp [Ne.symm hp]
  · by_cases h : q = p
    · subst h; simp [get?, insert, hq]
    · have hb : (q == p) = false := by simpa using h
      have hf := lookup_filter (fun x : Names => decide (x ≠ p)) q t.entries
      simp only [h, ne_eq, not_false_eq_true, decide_true, if_true] at hf
      simpa [get?, insert, hq, h, List.lookup_cons, hb] using hf

theorem get?_remove (t : FileTree) (p q : Names) :
    (t.remove p).get? q = if q ≠ [] ∧ p.isPrefixOf q then none else t.get? q := by
  by_cases hq : q = []
  · subst hq; simp
  · by_cases h : p.isPrefixOf q <;>
      simp [get?, remove, hq, h, lookup_filter (fun x : Names => !p.isPrefixOf x)]

/-! ## Building a tree -/

/-- The tree in which every place on the way to the given names, and they themselves, is a
directory. A place that has an entry keeps it. -/
def makeDirs (t : FileTree) (p : Names) : FileTree :=
  (List.range p.length).foldl (fun t n =>
    let q := p.take (n + 1)
    if (t.get? q).isSome then t else t.insert q .dir) t

/-- The tree with an entry at a place, whose directories are made if need be. -/
def plant (t : FileTree) (p : Names) (e : Entry) : FileTree :=
  (t.makeDirs p.dropLast).insert p e

/-- The tree that holds nothing but the two devices. -/
def devices : FileTree :=
  (({} : FileTree).plant (.ofText "dev/null".toList) (.device .null)).plant
    (.ofText "dev/full".toList) (.device .full)

/-! ## Comparing trees -/

/-- The entries strictly below a place, by the names that lead on from there. -/
def below (t : FileTree) (top : Names) : List (Names × Entry) :=
  t.entries.filterMap fun x =>
    if top.isPrefixOf x.1 && x.1.length ≠ top.length then some (x.1.drop top.length, x.2)
    else none

/-- What a comparison of two trees shows of an entry: its kind and its content, not its
permissions. -/
def sameShown : Entry → Entry → Bool
  | .file f, .file g => f.content = g.content
  | a, b => a = b

/-- The entries below a place that differ between two trees, with what the second tree has there. -/
def changes (old new : FileTree) (top : Names) : List (Names × Option Entry) :=
  let gone := (old.below top).filterMap fun x =>
    if (new.get? (top ++ x.1)).isNone then some (x.1, none) else none
  let altered := (new.below top).filterMap fun x =>
    match old.get? (top ++ x.1) with
    | some e => if sameShown e x.2 then none else some (x.1, some x.2)
    | none => some (x.1, some x.2)
  gone ++ altered

end FileTree
end LineShell
