import LineShell.IoError

/-!
# Output streams

The shell writes to two streams of its own, one for regular output and one for diagnostics. Each is
either shared with the process, whose streams never fail, or a `Sink` that keeps what it is given
and may fail: a write may be cut short, and a flush may be refused, at any call and for any reason.
What a sink does at a call depends only on how many calls there were and how many bytes it holds.
-/

namespace LineShell

structure Sink where
  /-- The bytes taken so far. -/
  held : Bytes := []
  /-- How many writes and flushes there were. -/
  calls : Nat := 0
  /-- By calls and bytes held: the most bytes that the next write takes, and how it fails if it is
  offered more. `none` takes everything. -/
  room : Nat → Nat → Option (Nat × IoError) := fun _ _ => none
  /-- By calls: how the next flush fails, if it does. -/
  flushFault : Nat → Option IoError := fun _ => none

namespace Sink

/-- A sink that takes a number of bytes over its life and then fails every write. -/
def bounded (capacity : Nat) (e : IoError) : Sink :=
  { room := fun _ held => some (capacity - held, e) }

/-- Offers bytes; the answer is the error if not all were taken. -/
def write (s : Sink) (bs : Bytes) : Option IoError × Sink :=
  match s.room s.calls s.held.length with
  | none => (none, { s with held := s.held ++ bs, calls := s.calls + 1 })
  | some (room, e) =>
    if bs.length ≤ room then (none, { s with held := s.held ++ bs, calls := s.calls + 1 })
    else (some e, { s with held := s.held ++ bs.take room, calls := s.calls + 1 })

def flush (s : Sink) : Option IoError × Sink :=
  (s.flushFault s.calls, { s with calls := s.calls + 1 })

end Sink

/-- Where one of the shell's own streams goes. -/
inductive Outlet where
  /-- To the process's stream of the same kind. -/
  | process
  | sink (s : Sink)

end LineShell
