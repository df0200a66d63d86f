import LineShell.Command
import LineShell.IoError

/-!
# Diagnostics

Everything the shell reports on its stream for diagnostics, by its cause, with the wording in one
place. A diagnostic about an input or output error gives the bare reason of the error, except where
a builtin failed to write its own output: there the error's full text is the diagnostic.
-/

namespace LineShell

/-- What the shell has to report. -/
inductive Diagnostic where
  | badLine (e : SyntaxError)
  | notFound (name : Text)
  | missingArgument (builtin : Text)
  /-- The redirect target could not be opened. -/
  | target (path : Text) (cause : IoError)
  /-- The directory could not be entered. -/
  | directory (path : Text) (cause : IoError)
  /-- The working directory has no path. -/
  | workingDirectory (cause : IoError)
  | start (name : Text) (cause : IoError)
  /-- How the program ended cannot be learned. -/
  | wait (name : Text)
  | flush (cause : IoError)
  /-- A builtin could not write its output. -/
  | output (cause : IoError)
  /-- A builtin's own message. -/
  | other (message : Text)
  deriving Repr, DecidableEq

namespace Diagnostic

/-- A subject, a colon and what is said of it. -/
def about (subject remark : Text) : Text :=
  subject ++ ": ".toList ++ remark

/-- The wording of a diagnostic, without the end of the line. -/
def text : Diagnostic → Text
  | .badLine e => e.message
  | .notFound name => about name "command not found".toList
  | .missingArgument builtin => about builtin "missing argument".toList
  | .target path cause => about path cause.reason
  | .directory path cause => about "cd".toList (about path cause.reason)
  | .workingDirectory cause => about "pwd".toList cause.reason
  | .start name cause => about name cause.reason
  | .wait name => about name "failed to wait for process".toList
  | .flush cause => about "write error".toList cause.reason
  | .output cause => cause.text
  | .other message => message

end Diagnostic
end LineShell
