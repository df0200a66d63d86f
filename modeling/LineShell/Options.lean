import LineShell.Text

/-!
# Command-line options

The shell takes one line to run, a switch for logging and a switch for line history, in any order
and with nothing else beside them. Options are read from left to right and the first mistake ends
the reading. Help is given only after everything was read; options after the word for it are a
mistake. After `--` nothing is an option or a word for help.
-/

namespace LineShell

/-- The name by which the shell speaks of itself. -/
def shellName : Text := "myshell".toList

structure Options where
  /-- A single line to run. -/
  command : Option Text := none
  /-- Whether to log everything. -/
  verbose : Bool := false
  /-- Whether a terminal's lines are kept for editing. -/
  history : Bool := true
  deriving Repr, DecidableEq

/-- Why options ask for nothing that can be run. -/
inductive Usage where
  | help
  | noValue (option : Text)
  | duplicate (option value : Text)
  | unrecognized (arg : Text)
  /-- An option follows the word for help. -/
  | trailing
  deriving Repr, DecidableEq

namespace Options

def helpWords : List Text := ["--help".toList, "help".toList]

/-- Reads options. `help` says that help was asked for, `done` that no more options follow. -/
def readFrom (opts : Options) (help done : Bool) : List Text → Except Usage Options
  | [] => if help then .error .help else .ok opts
  | arg :: rest =>
    if !done ∧ arg ∈ helpWords then readFrom opts true done rest
    else if !done ∧ arg.head? = some '-' then
      if arg = "--".toList then readFrom opts help true rest
      else if help then .error .trailing
      else if arg = "-c".toList ∨ arg = "--command".toList then
        match rest with
        | [] => .error (.noValue arg)
        | value :: rest =>
          if opts.command.isSome then .error (.duplicate arg value)
          else readFrom { opts with command := some value } help done rest
      else if arg = "-v".toList ∨ arg = "--verbose".toList then
        readFrom { opts with verbose := true } help done rest
      else if arg = "--no-history".toList then
        readFrom { opts with history := false } help done rest
      else .error (.unrecognized arg)
    else .error (.unrecognized arg)

def ofArgs (args : List Text) : Except Usage Options :=
  readFrom {} false false args

end Options

namespace Usage

def helpText : Text :=
  "Usage: ".toList ++ shellName ++
  " [-c <command>] [-v] [--no-history]

A minimal interactive shell with builtins, quoting and output redirection.

Options:
  -c, --command     run a single command line and exit with its status.
  -v, --verbose     log debug diagnostics to standard error.
  --no-history      do not keep a history of interactive lines.
  --help, help      display usage information

".toList

/-- What a mistake in the options is called. -/
def complaint : Usage → Text
  | .help => []
  | .noValue option => "No value provided for option '".toList ++ option ++ "'.\n".toList
  | .duplicate option value =>
    "Error parsing option '".toList ++ option ++ "' with value '".toList ++ value
      ++ "': duplicate values provided\n".toList
  | .unrecognized arg => "Unrecognized argument: ".toList ++ arg ++ "\n".toList
  | .trailing => "Trailing arguments are not allowed after `help`.".toList

/-- A complaint followed by the advice to ask for help. -/
def advice (u : Usage) : Text :=
  u.complaint ++ "\nRun ".toList ++ shellName ++ " --help for more information.\n".toList

end Usage
end LineShell
