import LineShell.Log.Directive
import LineShell.Options
import LineShell.Session

/-!
# Logging

Each event of a journal has a level, comes from a part of the shell, and has fields. A filter is a
list of directives; of those that cover an event the closest counts, and of equally close ones the
last. An event is logged if its level is no finer than the one that counts.

A filter is set by a variable. What is no directive there is complained about and does not count.
-/

namespace LineShell

/-! ## Events -/

namespace Event

/-- The level of an event. Diagnostics are warnings. -/
def level : Event → Level
  | .reported _ => .warn
  | _ => .debug

/-- The part of the shell that an event comes from. -/
def part : Event → Text
  | .starting _ _ | .finished _ _ => shellName ++ "::external".toList
  | .asking => "rustyline".toList
  | _ => shellName ++ "::interpreter".toList

/-- The names of the fields of an event, besides its message. -/
def details : Event → List String
  | .scanned _ => ["tokens"]
  | .dispatched _ => ["cmd"]
  | .reported _ => []
  | .starting _ _ => ["program", "args"]
  | .finished _ _ => ["name", "code"]
  | .asking => ["log.target", "log.module_path", "log.file", "log.line"]
  | .terminating _ => ["code"]
  | .inputEnded => []

/-- The names of the fields of an event. -/
def fields (e : Event) : List Text :=
  ("message" :: e.details).map String.toList

end Event

/-! ## Filters -/

/-- Directives in the order in which they were given. -/
abbrev LogFilter := List Directive

namespace LogFilter

/-- The directive that counts for an event. -/
def directive? (f : LogFilter) (e : Event) : Option Directive :=
  (f.filter fun d => d.isPlain && d.covers e.part e.fields).foldl
    (fun best d => if best.all d.isAsClose then some d else best) none

def admits (f : LogFilter) (e : Event) : Bool :=
  (f.directive? e).any fun d => e.level.rank ≤ d.level.rank

end LogFilter

/-! ## Settings -/

/-- How a shell logs. -/
structure LogSetting where
  filter : LogFilter := []
  /-- What is said about the pieces that are no directives. -/
  complaints : List Text := []
  /-- Whether the shell broke off at a piece that would be cut inside a character. -/
  isBroken : Bool := false
  deriving Repr, DecidableEq

namespace LogSetting

def complaint (piece : Text) (e : DirectiveError) : Text :=
  "ignoring `".toList ++ piece ++ "`: ".toList ++ e.message

/-- The setting that some pieces spell. -/
def ofPieces : List Text → LogSetting
  | [] => {}
  | piece :: pieces => match Directive.ofText piece with
    | .error .miscut => { isBroken := true }
    | .error e =>
      let rest := ofPieces pieces
      { rest with complaints := complaint piece e :: rest.complaints }
    | .ok d =>
      let rest := ofPieces pieces
      { rest with filter := d :: rest.filter }

/-- The setting that a text spells: directives separated by commas. -/
def ofText (t : Text) : LogSetting :=
  ofPieces ((Text.split ',' t).filter (· ≠ []))

/-- The setting of a shell: what the value of `RUST_LOG` spells, if it has one, or else everything
if the options ask for that. -/
def ofOptions (value : Option Text) (opts : Options) : LogSetting :=
  match value with
  | some t => ofText t
  | none => { filter := if opts.verbose then [{ level := .debug }] else [] }

end LogSetting
end LineShell
