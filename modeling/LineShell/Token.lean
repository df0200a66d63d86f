import LineShell.Text

/-!
# Tokens of a command line

A line is scanned into words and redirection operators. Outside quotes, blank characters separate
words, `>` and `1>` are operators that need no blank around them, single quotes take everything up
to the next single quote as it stands, double quotes do so up to the next double quote except that
a backslash makes the next character plain, and a backslash outside quotes makes the next character
plain. Quotes and backslashes themselves are no part of a word, and neighbouring pieces make one
word.

Scanning never fails: an open quote is closed by the end of the line and a last backslash that
waits for a character is dropped. No word is empty.

`scan` reads from a `Mode` and answers the letters that continue the current word together with the
tokens after it; `Mode.after` is the mode in which it ends.
-/

namespace LineShell

/-- A redirection operator, by its spelling. -/
inductive Operator where
  /-- The operator `>`. -/
  | plain
  /-- The operator `1>`. -/
  | numbered
  deriving Repr, DecidableEq

def Operator.text : Operator → Text
  | .plain => ">".toList
  | .numbered => "1>".toList

inductive Token where
  /-- Literal text, quotes and backslashes resolved. -/
  | word (text : Text)
  /-- Redirect standard output to what the next token names. -/
  | redirect (op : Operator)
  deriving Repr, DecidableEq

namespace Token

/-- The text of a word or the spelling of an operator. -/
def text : Token → Text
  | .word t => t
  | .redirect op => op.text

end Token

/-! ## Modes -/

/-- Where the scanner stands with respect to quotes and backslashes. Inside single quotes a
backslash is an ordinary character, so no mode waits for a character there. -/
inductive Mode where
  | bare
  | single
  | double
  /-- After a backslash outside quotes. -/
  | bareEscape
  /-- After a backslash inside double quotes. -/
  | doubleEscape
  deriving Repr, DecidableEq

namespace Mode

def next : Mode → Char → Mode
  | .bare, c =>
    if c = '\'' then .single else if c = '\"' then .double else if c = '\\' then .bareEscape
    else .bare
  | .single, c => if c = '\'' then .bare else .single
  | .double, c => if c = '\"' then .bare else if c = '\\' then .doubleEscape else .double
  | .bareEscape, _ => .bare
  | .doubleEscape, _ => .double

def after (m : Mode) (t : Text) : Mode :=
  t.foldl next m

end Mode

/-! ## Scanning -/

namespace Token

/-- Puts the letters of a word before the tokens that follow it; no letters make no word. -/
def close : Text × List Token → List Token
  | ([], ts) => ts
  | (c :: w, ts) => .word (c :: w) :: ts

/-- Adds a letter to the current word. -/
def letter (c : Char) : Text × List Token → Text × List Token
  | (w, ts) => (c :: w, ts)

/-- Reads on in a mode: the letters that continue the current word, and the tokens after it. -/
def scan : Mode → Text → Text × List Token
  | _, [] => ([], [])
  | .bareEscape, c :: cs => letter c (scan .bare cs)
  | .doubleEscape, c :: cs => letter c (scan .double cs)
  | .single, c :: cs => if c = '\'' then scan .bare cs else letter c (scan .single cs)
  | .double, c :: cs =>
    if c = '\"' then scan .bare cs
    else if c = '\\' then scan .doubleEscape cs
    else letter c (scan .double cs)
  | .bare, '1' :: '>' :: cs => ([], .redirect .numbered :: close (scan .bare cs))
  | .bare, c :: cs =>
    if c = '\'' then scan .single cs
    else if c = '\"' then scan .double cs
    else if c = '\\' then scan .bareEscape cs
    else if c = '>' then ([], .redirect .plain :: close (scan .bare cs))
    else if isBlank c then ([], close (scan .bare cs))
    else letter c (scan .bare cs)

def tokenize (line : Text) : List Token :=
  close (scan .bare line)

end Token
end LineShell
