import LineShell.Input
import LineShell.Text.Cluster

/-!
# Terminals

What is typed at a terminal reaches its readers line by line; all of it is typed before any of it is
read. While a line is open some keys take back what was typed in it, and others send what is there,
take the next key as it is, cancel everything that was typed, or do nothing. A key that sends where
there is nothing to send is the end of the input, once.

Backspace is none of these keys. A reader that asks for text sees it and takes back the cluster
before it.
-/

namespace LineShell.Terminal

/-! ## Keys -/

/-- What a typed byte does. -/
inductive Key where
  | plain
  /-- Sends the line with a newline. -/
  | newline
  | eraseByte
  /-- Takes back a word and what follows it. -/
  | eraseWord
  | eraseLine
  /-- Makes the next byte a plain one. -/
  | quote
  /-- Sends the line as it is. -/
  | send
  /-- Takes back everything, also what was sent. -/
  | cancel
  | ignored
  deriving Repr, DecidableEq

def key (b : UInt8) : Key :=
  match b.toNat with
  | 0x0A | 0x0D => .newline
  | 0x7F => .eraseByte
  | 0x17 => .eraseWord
  | 0x15 => .eraseLine
  | 0x16 => .quote
  | 0x04 => .send
  | 0x03 | 0x1A | 0x1C => .cancel
  | 0x11 | 0x13 => .ignored
  | _ => .plain

/-- A word is made of letters, digits and underscores, each of them one byte. -/
def isWordByte (b : UInt8) : Bool :=
  let c := Char.ofNat b.toNat
  c.isAlphanum || c == '_' || inRanges [(0xC0, 0xD6), (0xD8, 0xF6), (0xF8, 0xFF)] c

/-- How long an open line can be. -/
def capacity : Nat := 4096

/-- A line, given from its last byte to its first, with room for one more byte: a full one loses its
last. -/
def makeRoom (line : Bytes) : Bytes :=
  if line.length < capacity then line else line.drop 1

/-- What was typed so far. Everything is given from its last byte to its first. -/
structure Typing where
  sent : Input := []
  /-- The open line. -/
  line : Bytes := []
  /-- Whether the next byte is a plain one whatever it is. -/
  quoted : Bool := false
  deriving Repr, DecidableEq

namespace Typing

/-- What was sent, with a line sent after it. -/
def sendLine (t : Typing) (line : Bytes) : Typing :=
  { sent := none :: (line.map some ++ t.sent) }

def press (t : Typing) (b : UInt8) : Typing :=
  let line := makeRoom t.line
  if t.quoted then { t with line := b :: line, quoted := false }
  else match key b with
    | .plain => { t with line := b :: line }
    | .newline => t.sendLine (Line.newline :: line)
    | .eraseByte => { t with line := line.drop 1 }
    | .eraseWord => { t with line := (line.dropWhile (!isWordByte ·)).dropWhile isWordByte }
    | .eraseLine => { t with line := [] }
    | .quote => { t with line := line, quoted := true }
    | .send => t.sendLine line
    | .cancel => {}
    | .ignored => { t with line := line }

end Typing

/-- What reaches the readers of what is typed. A line that is open at the end is sent. -/
def deliver (typed : Bytes) : Input :=
  let t := typed.foldl Typing.press {}
  (if t.line = [] then t else t.sendLine t.line).sent.reverse

/-! ## Backspaces -/

def backspace : Text := ['\x08']

/-- A text whose clusters can be taken back, the last one first. The size of a cluster is kept in
one byte. -/
structure Draft where
  bytes : Bytes := []
  sizes : List Nat := []
  deriving Repr, DecidableEq

namespace Draft

/-- Puts a cluster in, or takes the last one back; `none` if that would cut a character. A backspace
with nothing before it does nothing. -/
def put (d : Draft) (g : Text) : Option Draft :=
  if g = backspace then
    match d.sizes with
    | [] => some d
    | size :: sizes =>
      let rest := d.bytes.length - size
      if Utf8.isBoundary d.bytes rest then some ⟨d.bytes.take rest, sizes⟩ else none
  else
    let bytes := Utf8.encode g
    some ⟨d.bytes ++ bytes, bytes.length % 256 :: d.sizes⟩

end Draft

/-- The text that is left when each backspace has taken back the cluster before it. -/
def applyBackspaces? (t : Text) : Option Text :=
  (t.clusters.foldlM Draft.put {}).bind fun d => Utf8.decode? d.bytes

end LineShell.Terminal
