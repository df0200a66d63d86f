import LineShell.Line
import LineShell.Outcome
import LineShell.Program

/-!
# A probe program

A program for trying out a shell. Its first argument says what it does: `exit` and `sig` end it,
`out` and `err` write a text to one of its streams, `cwd` prints its working directory, `line`
copies one line of its standard input. Otherwise it prints its arguments, numbered, one to a line.
-/

namespace LineShell.Program

/-- The exit code that a numeric argument gives: its low eight bits. -/
def exitCode (arg : Option Text) : UInt8 :=
  UInt8.ofNat (exitByte ((arg.bind Text.toInt?).getD 0))

/-- The ending that a signal number gives; there is no signal zero. -/
def signalEnding (arg : Option Text) : Ending :=
  match (arg.bind Text.toInt?).getD 0 with
  | .ofNat (n + 1) => if h : n + 1 < 128 then .killed ⟨n + 1, h⟩ else .exited 0
  | _ => .exited 0

/-- The arguments, each with its index. -/
def listing (argv : List Bytes) : Bytes :=
  argv.zipIdx.flatMap fun (arg, i) =>
    Utf8.encode (Text.ofNat i ++ [':']) ++ arg ++ [Line.newline]

def probe (l : Launch) : Effect :=
  let arg (n : Nat) : Option Text := l.argv[n]?.map Utf8.decode
  let text := l.argv[2]?.getD []
  match (arg 1).map String.ofList with
  | some "exit" => { ending := some (.exited (exitCode (arg 2))) }
  | some "sig" => { ending := some (signalEnding (arg 2)) }
  | some "out" => { out := text, ending := some (.exited (exitCode (arg 3))) }
  | some "err" => { err := text, ending := some (.exited (exitCode (arg 3))) }
  | some "cwd" => { out := l.workingDirectory.getD [] ++ [Line.newline] }
  | some "line" =>
    let line := l.input.readLine false
    { out := line.1, taken := l.input.length - line.2.length }
  | _ => { out := listing l.argv }

end LineShell.Program
