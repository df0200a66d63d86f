import LineShell.Invocation
import LineShell.Program.Probe

/-!
# The command line

Runs the shell on its arguments and standard input. The file tree is in memory: it starts with
nothing but the two devices, and it is gone when the shell ends. Log lines are not printed.
-/

open LineShell in
/-- Runs the shell on the given arguments. -/
def main (args : List String) : IO UInt32 := do
  let vars ← ["PATH", "HOME", "RUST_LOG"].filterMapM fun key => do
    return (← IO.getEnv key).map fun value => (key.toList, value.toList)
  let stdin ← IO.getStdin
  let input ← stdin.readBinToEnd
  let inv : Invocation :=
    { args := args.map String.toList, vars := vars, files := .devices
      input := input.toList, isTerminal := ← stdin.isTty }
  let done := inv.run fun _ => Program.probe
  let stdout ← IO.getStdout
  stdout.write (ByteArray.mk done.stdout.toArray)
  stdout.flush
  let stderr ← IO.getStderr
  stderr.write (ByteArray.mk done.stderr.toArray)
  stderr.flush
  return done.status.toUInt32
