import LineShell.Text

/-!
# Levels

A level is named by a word, or by a number from 0 to 5 which counts from nothing at all to
everything.
-/

namespace LineShell

/-- How fine a message is, from nothing at all to everything. -/
inductive Level where
  | off | error | warn | info | debug | trace
  deriving Repr, DecidableEq

namespace Level

/-- The levels by name, the coarsest first. -/
def names : List (String × Level) :=
  [("off", .off), ("error", .error), ("warn", .warn), ("info", .info), ("debug", .debug),
   ("trace", .trace)]

/-- Finer levels are greater. -/
def rank : Level → Nat
  | .off => 0
  | .error => 1
  | .warn => 2
  | .info => 3
  | .debug => 4
  | .trace => 5

def ofNat? (n : Nat) : Option Level :=
  names[n]?.map (·.2)

/-- The number that a text spells, with or without a plus sign. -/
def number? : Text → Option Nat
  | '+' :: digits => Text.toNat? digits
  | digits => Text.toNat? digits

/-- The level that a text names; case does not matter. -/
def ofText? (t : Text) : Option Level :=
  match number? t with
  | some n => ofNat? n
  | none => names.lookup (String.ofList (t.map Char.toLower))

end Level
end LineShell
