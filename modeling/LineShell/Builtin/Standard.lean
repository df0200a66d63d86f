import LineShell.Builtin

/-!
# The standard builtins

`cd` changes the working directory, `echo` prints its arguments, `exit` ends the shell, `pwd` prints
the working directory, and `type` says what each of its arguments would run.
-/

namespace LineShell
namespace Builtin

/-- Ends the shell with the code in the first argument, or zero. An argument that is no exit number
is noted, and the code is then one. -/
def exit : Builtin where
  name := "exit".toList
  act := fun _ args => match args with
    | [] => { result := .ok (.terminate 0) }
    | arg :: _ => match exitNumber? arg with
      | some code => { result := .ok (.terminate code) }
      | none =>
        { notes := [Diagnostic.about "exit".toList
            (Diagnostic.about arg "numeric argument required".toList)]
          result := .ok (.terminate 1) }

/-- Changes the working directory to its first argument, a leading tilde expanded. -/
def cd : Builtin where
  name := "cd".toList
  act := fun ctx args => match args with
    | [] => .fail (.missingArgument "cd".toList)
    | arg :: _ =>
      let dir := ctx.env.expandTilde arg
      match ctx.files.directory ctx.cwd dir with
      | .error e => .fail (.directory dir e)
      | .ok place => { moveTo := some place, result := .ok (.proceed 0) }

/-- Prints its arguments with single spaces between them. -/
def echo : Builtin where
  name := "echo".toList
  act := fun _ args => { lines := [Text.join " ".toList args], result := .ok (.proceed 0) }

/-- Prints the path of the working directory, with a replacement character for what is not
UTF-8. -/
def pwd : Builtin where
  name := "pwd".toList
  act := fun ctx _ => match ctx.cwd.path? with
    | some path => { lines := [Utf8.decode path], result := .ok (.proceed 0) }
    | none => .fail (.workingDirectory (.system .noEntry))

/-- What a name stands for. -/
inductive Meaning where
  | builtin
  | program (path : Text)
  | nothing
  deriving Repr, DecidableEq

/-- A builtin comes before a program of the same name. -/
def meaning (ctx : Context) (name : Text) : Meaning :=
  if ctx.isBuiltin name then .builtin
  else match ctx.env.locate ctx.files ctx.cwd name with
    | some path => .program path
    | none => .nothing

def Meaning.line (name : Text) : Meaning → Text
  | .builtin => name ++ " is a shell builtin".toList
  | .program path => name ++ " is ".toList ++ path
  | .nothing => name ++ " not found".toList

/-- Prints one line per argument, saying what it stands for. The status is one if some argument
stands for nothing. -/
def type : Builtin where
  name := "type".toList
  act := fun ctx args =>
    if args = [] then .fail (.missingArgument "type".toList)
    else
      { lines := args.map fun name => (meaning ctx name).line name
        result := .ok (.proceed
          (if args.any fun name => meaning ctx name = .nothing then Status.failure else 0)) }

end Builtin

def Registry.standard : Registry :=
  .ofList [Builtin.exit, Builtin.cd, Builtin.echo, Builtin.pwd, Builtin.type]

end LineShell
