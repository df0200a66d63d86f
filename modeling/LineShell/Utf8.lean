import LineShell.Text

/-!
# UTF-8

Encoding writes each character as one to four bytes. Decoding is a transducer: its state is what
is still owed of a character whose first bytes have been read, and each byte emits the characters
that it completes. A byte that cannot continue the pending character ends that character as
malformed and is then read afresh, so a malformed sequence never swallows the byte after it: every
maximal beginning of a character, and every byte that begins none, is one malformed element.

`decode` puts the replacement character for each malformed element and never fails; `decode?`
refuses a text that has one. Encoded text can be cut only where a character begins or at its end.
-/

namespace LineShell.Utf8

/-! ## Encoding -/

/-- The byte with the given value below 256. -/
def byte (n : Nat) : UInt8 :=
  UInt8.ofNat n

def encodeChar (c : Char) : Bytes :=
  let n := c.toNat
  if n < 0x80 then [byte n]
  else if n < 0x800 then [byte (0xC0 + n / 64), byte (0x80 + n % 64)]
  else if n < 0x10000 then
    [byte (0xE0 + n / 4096), byte (0x80 + n / 64 % 64), byte (0x80 + n % 64)]
  else
    [byte (0xF0 + n / 262144), byte (0x80 + n / 4096 % 64), byte (0x80 + n / 64 % 64),
     byte (0x80 + n % 64)]

def encode (t : Text) : Bytes :=
  t.flatMap encodeChar

/-! ## Decoding -/

/-- A character whose first bytes have been read: its bits so far, the range in which the next byte
must lie, and how many bytes follow that one. -/
structure Pending where
  bits : Nat
  low : Nat
  high : Nat
  more : Nat
  deriving Repr, DecidableEq

/-- What a byte emits (`none` for a malformed element), and what is pending after it. -/
abbrev Step := List (Option Char) × Option Pending

/-- Reads a byte at which a character begins. -/
def begin (b : UInt8) : Step :=
  let n := b.toNat
  if n < 0x80 then ([some (Char.ofNat n)], none)
  else if n < 0xC2 then ([none], none)
  else if n < 0xE0 then ([], some ⟨n - 0xC0, 0x80, 0xBF, 0⟩)
  else if n = 0xE0 then ([], some ⟨0, 0xA0, 0xBF, 1⟩)
  else if n = 0xED then ([], some ⟨0xD, 0x80, 0x9F, 1⟩)
  else if n < 0xF0 then ([], some ⟨n - 0xE0, 0x80, 0xBF, 1⟩)
  else if n = 0xF0 then ([], some ⟨0, 0x90, 0xBF, 2⟩)
  else if n < 0xF4 then ([], some ⟨n - 0xF0, 0x80, 0xBF, 2⟩)
  else if n = 0xF4 then ([], some ⟨4, 0x80, 0x8F, 2⟩)
  else ([none], none)

def step : Option Pending → UInt8 → Step
  | none, b => begin b
  | some p, b =>
    if p.low ≤ b.toNat ∧ b.toNat ≤ p.high then
      let bits := 64 * p.bits + (b.toNat - 0x80)
      match p.more with
      | 0 => ([some (Char.ofNat bits)], none)
      | more + 1 => ([], some ⟨bits, 0x80, 0xBF, more⟩)
    else
      let (out, next) := begin b
      (none :: out, next)

/-- The elements of a byte sequence, read from a given state; a pending character at the end is
malformed. -/
def elements : Option Pending → Bytes → List (Option Char)
  | none, [] => []
  | some _, [] => [none]
  | state, b :: bs =>
    let (out, next) := step state b
    out ++ elements next bs

def replacement : Char := '\uFFFD'

/-- Decodes leniently: each malformed element becomes one replacement character. -/
def decode (bs : Bytes) : Text :=
  (elements none bs).map (·.getD replacement)

/-- Decodes strictly: `none` if some element is malformed. -/
def decode? (bs : Bytes) : Option Text :=
  (elements none bs).mapM id

/-! ## Cutting -/

/-- Whether the bytes of a character, or nothing, come at a place in encoded text. -/
def isBoundary (bs : Bytes) (place : Nat) : Bool :=
  match bs[place]? with
  | some b => b.toNat < 0x80 || 0xC0 ≤ b.toNat
  | none => place == bs.length

/-- The text between two places of encoded text; `none` if one of them is inside a character. -/
def slice? (bs : Bytes) (first last : Nat) : Option Text :=
  if isBoundary bs first && isBoundary bs last then decode? ((bs.take last).drop first) else none

end LineShell.Utf8
