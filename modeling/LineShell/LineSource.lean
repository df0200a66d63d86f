import LineShell.Terminal

/-!
# Line sources

A shell reads its lines from a buffer that is refilled, when it is empty, by a read of the standard
input that the shell shares with the programs it starts. What is fetched and what is left are all
the bytes there were (`bytes_fetch`).

The lines of a file or a pipe are decoded leniently. A line that was typed must be valid UTF-8, and
the backspaces in it take back what stands before them.
-/

namespace LineShell

/-- How an empty buffer is refilled. -/
inductive Refill where
  /-- Not at all: the buffer holds all the lines there are. -/
  | never
  /-- By a read of at most so many bytes. -/
  | block (size : Nat)
  deriving Repr, DecidableEq

namespace Refill

/-- What a refill takes of the input, and what it leaves. -/
def take : Refill → Input → Bytes × Input
  | .never, input => ([], input)
  | .block size, input => input.read size

theorem bytes_take (r : Refill) (input : Input) :
    (r.take input).1 ++ (r.take input).2.bytes = input.bytes := by
  cases r with
  | never => rfl
  | block size => exact input.bytes_read size

theorem length_take_le (r : Refill) (input : Input) :
    (r.take input).1.length + (r.take input).2.length ≤ input.length := by
  cases r with
  | never => simp [take]
  | block size => exact input.length_read_le size

end Refill

structure LineSource where
  /-- Bytes that were fetched but not yet handed out. -/
  held : Bytes := []
  refill : Refill := .never
  /-- Whether the lines are typed. -/
  isTyped : Bool := false
  deriving Repr, DecidableEq

namespace LineSource

/-- The size of the blocks in which a shell reads its standard input. -/
def blockSize : Nat := 8192

def ofBytes (bs : Bytes) : LineSource :=
  { held := bs }

/-- A source that reads standard input in blocks. -/
def standardInput : LineSource :=
  { refill := .block blockSize }

def terminal : LineSource :=
  { refill := .block blockSize, isTyped := true }

/-! ## Reading -/

/-- Cuts one line off a buffer that is refilled from the input. The answer is the line, empty only
at the end of everything, then the buffer and the input that are left. -/
def fetch (refill : Refill) (held : Bytes) (input : Input) : Bytes × Bytes × Input :=
  let line := (Line.cut held).1
  if Line.isEnded line then (line, (Line.cut held).2, input)
  else if (refill.take input).1 = [] then (line, [], (refill.take input).2)
  else
    let next := fetch refill (refill.take input).1 (refill.take input).2
    (line ++ next.1, next.2)
termination_by input.length
decreasing_by
  have hlen := Refill.length_take_le refill input
  have hpos := List.length_pos_iff.mpr ‹¬(refill.take input).1 = []›
  omega

theorem bytes_fetch (refill : Refill) (held : Bytes) (input : Input) :
    (fetch refill held input).1 ++ (fetch refill held input).2.1
      ++ (fetch refill held input).2.2.bytes = held ++ input.bytes := by
  have hcut := Line.cut_append held
  have htake := Refill.bytes_take refill input
  rw [fetch]
  split
  · simp only [hcut]
  · next hended =>
    rw [Line.cut_snd_eq_nil (by simpa using hended), List.append_nil] at hcut
    split
    · next hchunk =>
      rw [hchunk, List.nil_append] at htake
      simp [hcut, htake]
    · have ih := bytes_fetch refill (refill.take input).1 (refill.take input).2
      rw [htake] at ih
      simp only [hcut, List.append_assoc] at ih ⊢
      rw [ih]
termination_by input.length
decreasing_by
  have hlen := Refill.length_take_le refill input
  have hpos := List.length_pos_iff.mpr ‹¬(refill.take input).1 = []›
  omega

theorem length_fetch_le (refill : Refill) (held : Bytes) (input : Input) :
    (fetch refill held input).1.length + (fetch refill held input).2.1.length
      + (fetch refill held input).2.2.length ≤ held.length + input.length := by
  have hcut := congrArg List.length (Line.cut_append held)
  have htake := Refill.length_take_le refill input
  rw [List.length_append] at hcut
  rw [fetch]
  split
  · simp only
    omega
  · next hended =>
    have hrest := Line.cut_snd_eq_nil (by simpa using hended)
    rw [hrest, List.length_nil] at hcut
    split
    · simp only [List.length_nil]
      omega
    · have ih := length_fetch_le refill (refill.take input).1 (refill.take input).2
      simp only [List.length_append]
      omega
termination_by input.length
decreasing_by
  have hpos := List.length_pos_iff.mpr ‹¬(refill.take input).1 = []›
  omega

/-- What reading a line gives. -/
inductive Reading where
  | line (text : Text)
  | ended
  /-- The line was typed and is not valid UTF-8. -/
  | malformed
  /-- A backspace in the line would cut a character. -/
  | miscut
  deriving Repr, DecidableEq

/-- The text of a typed line. -/
def decodeTyped (content : Bytes) : Reading :=
  match Utf8.decode? content with
  | none => .malformed
  | some typed => match Terminal.applyBackspaces? typed with
    | none => .miscut
    | some text => .line text

/-- The text of a line as read; no bytes mean the end. -/
def decodeLine (isTyped : Bool) (raw : Bytes) : Reading :=
  if raw = [] then .ended
  else if isTyped then decodeTyped (Line.content raw)
  else .line (Utf8.decode (Line.content raw))

def read (src : LineSource) (input : Input) : Reading × LineSource × Input :=
  let next := fetch src.refill src.held input
  (decodeLine src.isTyped next.1, { src with held := next.2.1 }, next.2.2)

/-- How much a source can still take from its buffer and the input. -/
def unread (src : LineSource) (input : Input) : Nat :=
  src.held.length + input.length

/-- Reading a line that is not the end uses up at least one byte. -/
theorem unread_read_lt (src : LineSource) (input : Input) (h : (src.read input).1 ≠ .ended) :
    (src.read input).2.1.unread (src.read input).2.2 < src.unread input := by
  have hlen := length_fetch_le src.refill src.held input
  have hraw : (fetch src.refill src.held input).1 ≠ [] := by
    intro hnil
    exact h (by simp [read, decodeLine, hnil])
  have hpos := List.length_pos_iff.mpr hraw
  simp only [read, unread]
  omega

end LineSource

/-! ## Asking for lines -/

/-- A dialogue that asks for the lines of a source of given bytes and keeps what was shown. -/
structure Dialogue where
  source : LineSource
  /-- All the prompts that were shown. -/
  shown : Text := []
  deriving Repr, DecidableEq

/-- Shows a prompt and reads a line; `none` if there is no line. -/
def Dialogue.ask (d : Dialogue) (prompt : Text) : Option Text × Dialogue :=
  let next := d.source.read []
  let line := match next.1 with
    | .line text => some text
    | .ended | .malformed | .miscut => none
  (line, ⟨next.2.1, d.shown ++ prompt⟩)

end LineShell
