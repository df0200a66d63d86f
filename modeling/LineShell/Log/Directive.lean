import LineShell.Log.Level
import LineShell.Log.Pattern
import LineShell.Utf8

/-!
# Directives

A directive sets a level for some events. It is written as `target[span{field=value}]=level`, where
every part but one can be left out: a level alone, a target alone, a target or a bracket before the
equals sign. What has no level has the finest.

The value of a field is a number or a pattern.

A directive is read character by character, from its trimmed text. Places in it are counted in
bytes, and the parts are cut at these places from the text with its blanks; what stands at a place
is therefore shifted by the blanks in front, and a place can be inside a character.
-/

namespace LineShell

/-- A condition on the fields of an event. -/
structure FieldTest where
  name : Text
  /-- Whether the field must have a certain value. -/
  hasValue : Bool
  deriving Repr, DecidableEq

/-- The field that a text describes: a name, or a name, an equals sign and a value. A second equals
sign ends the value. -/
def FieldTest.ofText (t : Text) : Except PatternError FieldTest :=
  match Text.split '=' t with
  | name :: value :: _ =>
    if Text.isReal value then .ok ⟨name, true⟩
    else (Pattern.check value).map fun _ => ⟨name, true⟩
  | _ => .ok ⟨t, false⟩

/-- A level for the events that are from a part whose name begins with the target, that are within
the span, and that have the field. What is missing is no condition. -/
structure Directive where
  target : Option Text := none
  span : Option Text := none
  field : Option FieldTest := none
  level : Level := .trace
  deriving Repr, DecidableEq

/-- Why a text is no directive. -/
inductive DirectiveError where
  | malformed
  | badLevel
  | badField (e : PatternError)
  /-- A part would begin or end inside a character. -/
  | miscut
  deriving Repr, DecidableEq

/-- What is wrong with a text, where that can be said. -/
def DirectiveError.message : DirectiveError → Text
  | .malformed => "invalid filter directive".toList
  | .badLevel =>
    "error parsing level filter: expected one of ".toList
      ++ Level.names.flatMap (fun l => s!"\"{l.1}\", ".toList) ++ "or a number 0-5".toList
  | .badField e => "invalid field filter: ".toList ++ e.message
  | .miscut => []

namespace Directive

/-! ## Reading -/

/-- Where the reading of a directive stands; the places are those where a part begins. -/
inductive Stage where
  | start
  /-- In a target, or in a level that stands alone. -/
  | name
  | span (first : Nat)
  | field (first : Nat)
  | fieldEnd
  | spanEnd
  | level (first : Nat)
  deriving Repr, DecidableEq

/-- A character that a target or a level can begin with. -/
def isNameStart (c : Char) : Bool :=
  isAlphanumeric c || c == '-' || c == ':' || c == '_'

/-- The part of a directive's text between two places. -/
def slice (source : Bytes) (first last : Nat) : Except DirectiveError Text :=
  match Utf8.slice? source first last with
  | some t => .ok t
  | none => .error .miscut

/-- Reads one character, which is at the given place. -/
def readChar (source : Bytes) (place : Nat) (stage : Stage) (d : Directive) (c : Char) :
    Except DirectiveError (Stage × Directive) :=
  let after := place + 1
  match stage with
  | .start =>
    if c = '[' then .ok (.span after, d)
    else if isNameStart c then .ok (.name, d)
    else .error .malformed
  | .name =>
    if c = '=' then return (.level after, { d with target := ← slice source 0 place })
    else if c = '[' then return (.span after, { d with target := ← slice source 0 place })
    else .ok (.name, d)
  | .span first =>
    if c = ']' then return (.spanEnd, { d with span := some (← slice source first place) })
    else if c = '{' then do
      let name ← slice source first place
      return (.field after, { d with span := if name = [] then none else some name })
    else .ok (.span first, d)
  | .field first =>
    if c = '}' then do
      let text ← slice source first place
      if text = [] then .error .malformed
      else match FieldTest.ofText text with
        | .ok field => .ok (.fieldEnd, { d with field := some field })
        | .error e => .error (.badField e)
    else .ok (.field first, d)
  | .fieldEnd => if c = ']' then .ok (.spanEnd, d) else .error .malformed
  | .spanEnd => if c = '=' then .ok (.level after, d) else .error .malformed
  | .level first => .ok (.level first, d)

/-- Reads characters, the first of which is at the given place. -/
def readFrom (source : Bytes) (place : Nat) (stage : Stage) (d : Directive) :
    Text → Except DirectiveError (Stage × Directive)
  | [] => .ok (stage, d)
  | c :: cs => do
    let (stage, d) ← readChar source place stage d c
    readFrom source (place + (Utf8.encodeChar c).length) stage d cs

/-- The directive whose text has been read to its end. -/
def finish (t : Text) : Stage × Directive → Except DirectiveError Directive
  | (.name, d) => match Level.ofText? t with
    | some l => .ok { d with level := l }
    | none => .ok { d with target := some t }
  | (.level first, d) => do
    let source := Utf8.encode t
    let text ← slice source first source.length
    if text = [] then .ok d
    else match Level.ofText? text with
      | some l => .ok { d with level := l }
      | none => .error .badLevel
  | (.spanEnd, d) => .ok d
  | _ => .error .malformed

def ofText (t : Text) : Except DirectiveError Directive := do
  finish t (← readFrom (Utf8.encode t) 0 .start {} (Text.trim t))

/-! ## What a directive asks for -/

/-- Whether the directive asks for no more than can be seen from an event itself: it names no span
and no value. -/
def isPlain (d : Directive) : Bool :=
  d.span.isNone && d.field.all (!·.hasValue)

/-- Whether an event from a part, with some fields, meets the conditions. -/
def covers (d : Directive) (part : Text) (fields : List Text) : Bool :=
  d.target.all (·.isPrefixOf part) && d.field.all (fields.contains ·.name)

/-- Longer targets are closer, and any target is closer than none. -/
def targetRank (d : Directive) : Nat :=
  d.target.elim 0 (·.length + 1)

/-- Whether a directive is at least as close as another that covers the same event: it has the
longer target, or targets are alike and it asks for a field where the other does not, or both do
and its field is not the first in order. -/
def isAsClose (d other : Directive) : Bool :=
  if d.targetRank ≠ other.targetRank then other.targetRank < d.targetRank
  else match d.field, other.field with
    | some f, some g => !decide (f.name < g.name)
    | none, some _ => false
    | _, none => true

end Directive
end LineShell
