import LineShell.Line

/-!
# Shared input

The shell and the programs it starts read the same standard input. It is a list of bytes and of
marks: a read ends at a mark at the latest and uses it up with the bytes before it, and a read that
finds nothing but a mark finds the end of the input, once. Files and pipes have no marks; a terminal
puts one after everything that it sends.

A read loses no byte (`bytes_read`, `bytes_readLine`), and it never adds to the input
(`length_read_le`, `length_readLine_le`).
-/

namespace LineShell

/-- Bytes that nobody has read yet, and between them the marks, which are `none`. -/
abbrev Input := List (Option UInt8)

namespace Input

/-- The input that a file or a pipe gives. -/
def ofBytes (bs : Bytes) : Input :=
  bs.map some

def bytes (input : Input) : Bytes :=
  input.filterMap id

@[simp] theorem bytes_ofBytes (bs : Bytes) : (ofBytes bs).bytes = bs := by
  simp [bytes, ofBytes, List.filterMap_map]

@[simp] theorem bytes_nil : bytes [] = [] := rfl

@[simp] theorem bytes_mark (input : Input) : bytes (none :: input) = input.bytes := rfl

@[simp] theorem bytes_byte (b : UInt8) (input : Input) :
    bytes (some b :: input) = b :: input.bytes := rfl

@[simp] theorem bytes_append (i j : Input) : (i ++ j : Input).bytes = i.bytes ++ j.bytes := by
  simp [bytes]

/-! ## Reading -/

/-- An input without a mark at its front. -/
def skipMark : Input → Input
  | none :: rest => rest
  | input => input

/-- What one read of at most `size` bytes takes, and what it leaves. -/
def read : Nat → Input → Bytes × Input
  | _, [] => ([], [])
  | _, none :: rest => ([], rest)
  | 0, input => ([], input)
  | size + 1, some b :: rest =>
    let next := read size rest
    (b :: next.1, next.2)

/-- What a reader that reads byte by byte takes of a line, its newline included, and what it leaves.
`begun` says that the last read has taken a byte, and with it the mark that is now at the front. -/
def readLine (begun : Bool) : Input → Bytes × Input
  | [] => ([], [])
  | none :: rest => if begun then readLine false rest else ([], rest)
  | some b :: rest =>
    if b = Line.newline then ([b], skipMark rest)
    else
      let next := readLine true rest
      (b :: next.1, next.2)

theorem bytes_skipMark (input : Input) : (skipMark input).bytes = input.bytes := by
  unfold skipMark
  split <;> simp

theorem bytes_read (size : Nat) (input : Input) :
    (input.read size).1 ++ (input.read size).2.bytes = input.bytes := by
  fun_induction read size input with
  | case4 size b rest next ih => exact congrArg (b :: ·) ih
  | _ => simp

theorem bytes_readLine (begun : Bool) (input : Input) :
    (input.readLine begun).1 ++ (input.readLine begun).2.bytes = input.bytes := by
  fun_induction readLine begun input with
  | case2 rest ih => exact ih
  | case4 _ rest => simp [bytes_skipMark]
  | case5 _ b rest _ next ih => exact congrArg (b :: ·) ih
  | _ => simp

theorem length_skipMark_le (input : Input) : (skipMark input).length ≤ input.length := by
  unfold skipMark
  split <;> simp

/-- What a read takes is no longer part of the input. -/
theorem length_read_le (size : Nat) (input : Input) :
    (input.read size).1.length + (input.read size).2.length ≤ input.length := by
  fun_induction read size input with
  | case4 size b rest next ih =>
    have : next.1.length + next.2.length ≤ rest.length := ih
    simp only [List.length_cons]
    omega
  | _ => simp

theorem length_readLine_le (begun : Bool) (input : Input) :
    (input.readLine begun).1.length + (input.readLine begun).2.length ≤ input.length := by
  fun_induction readLine begun input with
  | case2 rest ih => exact Nat.le_succ_of_le ih
  | case4 _ rest =>
    have := length_skipMark_le rest
    simp only [List.length_cons, List.length_nil]
    omega
  | case5 _ b rest _ next ih =>
    have : next.1.length + next.2.length ≤ rest.length := ih
    simp only [List.length_cons]
    omega
  | _ => simp

end Input
end LineShell
