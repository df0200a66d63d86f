import LineShell.Builtin

/-!
# Probe builtins

A probe is a builtin for trying out a dispatcher. It prints its name and arguments and then answers
as its first argument asks: with a status, with the end of the shell, with a failure, with a note,
or with something it can see.
-/

namespace LineShell
namespace Builtin

/-- The integer that a text denotes, or zero. -/
def number (t : Text) : Int :=
  t.toInt?.getD 0

/-- The probe of a given name. -/
def probe (name : Text) : Builtin where
  name := name
  act := fun ctx args =>
    let heading := "stub ".toList ++ name ++ " [".toList ++ Text.join "|".toList args ++ "]".toList
    let arg (n : Nat) : Text := args[n]?.getD []
    let answer (code : Int) : Action := { lines := [heading], result := .ok (.proceed code) }
    match String.ofList (arg 0) with
    | "code" => answer (number (arg 1))
    | "term" => { lines := [heading], result := .ok (.terminate (number (arg 1))) }
    | "err" => { lines := [heading], result := .error (.other (arg 1)) }
    | "errctx" => { lines := [heading], result := .error (.other (arg 2)) }
    | "warn" => { answer 0 with notes := [arg 1] }
    | "has" => answer (if ctx.isBuiltin (arg 1) then 1 else 0)
    | "var" => { answer 0 with
        lines := [heading, (ctx.env.get? (arg 1)).getD "(unset)".toList] }
    | _ => answer 0

end Builtin
end LineShell
