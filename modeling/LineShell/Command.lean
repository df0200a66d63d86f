import LineShell.Token

/-!
# Commands

A command is a name, its arguments and at most one target for its standard output. It is read off
a token list: an operator takes the token right after it as target, whatever that token is (of an
operator, its spelling), the words that are left are the name and the arguments, and of several
targets the last one counts. A line whose last operator has no token after it is no command at all.
-/

namespace LineShell

structure Command where
  name : Text
  args : List Text
  /-- The file that receives standard output, if it is redirected. -/
  target : Option Text
  deriving Repr, DecidableEq

/-- Why a token list is no command line. -/
inductive SyntaxError where
  /-- The operator was the last token. -/
  | missingTarget (op : Operator)
  deriving Repr, DecidableEq

def SyntaxError.message : SyntaxError → Text
  | .missingTarget op =>
    "syntax error: no filename provided for redirection after '".toList ++ op.text ++ "'".toList

namespace Command

/-- The words that are no target, and the last target. -/
def gather : List Token → Except SyntaxError (List Text × Option Text)
  | [] => .ok ([], none)
  | .word w :: ts =>
    match gather ts with
    | .error e => .error e
    | .ok (words, target) => .ok (w :: words, target)
  | [.redirect op] => .error (.missingTarget op)
  | .redirect _ :: t :: ts =>
    match gather ts with
    | .error e => .error e
    | .ok (words, target) => .ok (words, some (target.getD t.text))

/-- The command that a token list spells; `none` if it has no word that could be a name. -/
def ofTokens (ts : List Token) : Except SyntaxError (Option Command) :=
  match gather ts with
  | .error e => .error e
  | .ok ([], _) => .ok none
  | .ok (name :: args, target) => .ok (some ⟨name, args, target⟩)

def ofLine (line : Text) : Except SyntaxError (Option Command) :=
  ofTokens (Token.tokenize line)

end Command
end LineShell
