import LineShell.Utf8

/-!
# Paths

A path is a text. Its pieces are what stands between its slashes, empty ones dropped, so that
doubled and trailing slashes do not count. Appending one path to another lets an absolute one
stand for itself.

To the system a path is bytes, and so is the name of an entry: of a path that is typed the encoding,
of a link whatever the link holds. Names need not be UTF-8, and a directory's own path is bytes too.

A name without a directory part is one that is a single piece once `.` pieces after the first are
dropped: such names are searched for, all others are used as they stand.
-/

namespace LineShell.Path

def isAbsolute : Text → Bool
  | '/' :: _ => true
  | _ => false

def endsInSlash (p : Text) : Bool :=
  p.getLast? == some '/'

/-- What stands between the slashes, in order, without the empty pieces. -/
def parts {α : Type} [DecidableEq α] (slash : α) (p : List α) : List (List α) :=
  (Text.split slash p).filter (· ≠ [])

/-- The pieces of a path, in order. -/
def pieces (p : Text) : List Text :=
  parts '/' p

/-- The piece that stands for the directory itself. -/
def here : Text := ".".toList

/-- The piece that stands for the directory above. -/
def above : Text := "..".toList

/-- A path followed by another one: the second alone if it is absolute, else both with one slash
between them unless the first is empty or ends in one. -/
def append (p q : Text) : Text :=
  if isAbsolute q then q
  else if p = [] ∨ endsInSlash p then p ++ q
  else p ++ '/' :: q

/-- The single component of a relative path that has just one. -/
def soleComponent? (p : Text) : Option Text :=
  if isAbsolute p then none
  else match pieces p with
    | [] => none
    | c :: cs => if cs.all (· = here) then some c else none

/-- The byte of a slash. -/
def slash : UInt8 := 47

/-- The absolute path of a directory, from the names that lead to it. -/
def ofNames (names : List Bytes) : Bytes :=
  match names with
  | [] => [slash]
  | _ => names.flatMap (slash :: ·)

/-- The longest component that the system accepts, in bytes. -/
def maxName : Nat := 255

/-- The system refuses paths of this many bytes or more. -/
def maxPath : Nat := 4096

end LineShell.Path
