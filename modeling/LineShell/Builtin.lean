import LineShell.Diagnostic
import LineShell.Environment
import LineShell.Outcome

/-!
# Builtins

A builtin is a named command that runs inside the shell. Given what it can see, it answers with an
`Action`: the lines it has for standard output, the notes it has for the stream of diagnostics, the
directory it moves to, and its result. The lines are written first, in order; if one cannot be
written the command ends there and has failed.

A registry holds builtins by name. A later registration of a name replaces an earlier one.
-/

namespace LineShell

/-- What a builtin can see besides its arguments. -/
structure Context where
  env : Environment
  files : FileTree
  cwd : Place
  /-- Whether a name is a builtin. -/
  isBuiltin : Text → Bool

structure Action where
  lines : List Text := []
  notes : List Text := []
  /-- The new working directory, if it changes. -/
  moveTo : Option Place := none
  result : Except Diagnostic Outcome

/-- The action that only fails. -/
def Action.fail (d : Diagnostic) : Action :=
  { result := .error d }

structure Builtin where
  name : Text
  act : Context → List Text → Action

/-! ## Registry -/

/-- Builtins by name; no two have the same. -/
structure Registry where
  entries : List Builtin := []

namespace Registry

/-- The builtin of a name. Case matters. -/
def get? (r : Registry) (name : Text) : Option Builtin :=
  r.entries.find? (·.name == name)

def contains (r : Registry) (name : Text) : Bool :=
  (r.get? name).isSome

/-- The registry with one more builtin, in place of one with the same name. -/
def register (r : Registry) (b : Builtin) : Registry :=
  ⟨b :: r.entries.filter (·.name ≠ b.name)⟩

def ofList (bs : List Builtin) : Registry :=
  bs.foldl register {}

@[simp] theorem get?_empty (name : Text) : ({} : Registry).get? name = none := rfl

theorem get?_register (r : Registry) (b : Builtin) (name : Text) :
    (r.register b).get? name = if name = b.name then some b else r.get? name := by
  by_cases h : name = b.name
  · subst h; simp [get?, register]
  · have hb : (b.name == name) = false := by simpa using Ne.symm h
    simp only [get?, register, List.find?_cons, hb, h, if_false, List.find?_filter]
    congr 1
    funext x
    by_cases hx : x.name = name
    · simp [hx, h]
    · simp [hx]

end Registry
end LineShell
