import LineShell.Text.Alphanumeric

/-!
# Patterns

A pattern says which texts the value of a field may be. No pattern is ever matched here, since no
event has the spans that would give a field its value; what counts is whether the pattern can be
used at all (`Pattern.check`).

A pattern takes characters or, where it says so, bytes. One that takes characters knows of no case
and of no class of characters but those it spells out. One that takes bytes must take only valid
UTF-8, so it cannot take any byte, or every byte but some. A word boundary between characters is
well-formed, but it cannot be used. The parts of a pattern can be nested to a certain depth.
-/

namespace LineShell

/-- Why a pattern cannot be used. -/
inductive PatternError where
  | malformed
  | wordBoundary
  deriving Repr, DecidableEq

def PatternError.message : PatternError → Text
  | .malformed => "error building NFA".toList
  | .wordBoundary =>
    "unsupported regex feature for DFAs: cannot build DFAs for regexes with Unicode word ".toList
      ++ "boundaries; switch to ASCII word boundaries, or heuristically enable Unicode word ".toList
      ++ "boundaries or use a different regex engine".toList

namespace Pattern

/-! ## Flags -/

/-- What a pattern sets for the rest of a group. -/
structure Flags where
  ignoresCase : Bool := false
  /-- Whether characters are taken, and not bytes. -/
  takesChars : Bool := true
  /-- Whether blanks and comments can stand between the parts. -/
  isSpaced : Bool := false
  deriving Repr, DecidableEq

namespace Flags

/-- The letters of flags, and the mark behind which flags are taken back. -/
def marks : Text := "imsRUux-".toList

/-- A flag after some marks. -/
def setTo (marks : Text) (mark : Char) (old : Bool) : Bool :=
  (marks.takeWhile (· ≠ '-')).contains mark || (old && !marks.contains mark)

def set (f : Flags) (marks : Text) : Flags where
  ignoresCase := setTo marks 'i' f.ignoresCase
  takesChars := setTo marks 'u' f.takesChars
  isSpaced := setTo marks 'x' f.isSpaced

/-- Reads marks after those already read, up to the colon or the parenthesis that ends them, which
is given with them. No mark is given twice, and the last one is a flag. -/
def read? (marks : Text) : Text → Option (Text × Char × Text)
  | [] => none
  | c :: cs =>
    if c = ':' ∨ c = ')' then
      if marks.getLast? = some '-' then none else some (marks, c, cs)
    else if c ∈ Flags.marks ∧ c ∉ marks then read? (marks ++ [c]) cs
    else none

/-- What follows blanks and comments; a comment goes to the end of its line. -/
def skipSpace (inComment : Bool) : Text → Text
  | [] => []
  | c :: cs =>
    if inComment then skipSpace (c ≠ '\n') cs
    else if isBlank c then skipSpace false cs
    else if c = '#' then skipSpace true cs
    else c :: cs

def skip (f : Flags) (t : Text) : Text :=
  if f.isSpaced then skipSpace false t else t

/-- The character that decides whether a hyphen before it makes a range. -/
def peek (f : Flags) (t : Text) : Option Char :=
  if f.isSpaced then
    let t' := t.dropWhile isBlank
    let t' := if t'.head? = some '#' then (t'.drop 1).dropWhile isBlank else t'
    t'.head?.or t.head?
  else t.head?

end Flags

/-! ## Single parts -/

/-- A part of a pattern that has no parts itself. -/
inductive Atom where
  /-- A character; `isByte` says that it was given as a byte. -/
  | literal (c : Char) (isByte : Bool)
  | any
  /-- The digits, the blanks or the word characters, or all others. -/
  | shorthand (negated : Bool)
  /-- A boundary of a word, or a place that is none. -/
  | word
  | anchor
  deriving Repr, DecidableEq

namespace Atom

/-- Whether a part can be used under some flags. -/
def isAllowed (f : Flags) : Atom → Bool
  | .literal c isByte =>
    if f.takesChars then !f.ignoresCase else !isByte || decide (c.toNat < 0x80)
  | .any => f.takesChars
  | .shorthand negated => !f.takesChars && !negated
  | .word | .anchor => true

/-- Whether a part can be a member of a set. -/
def isMember (f : Flags) : Atom → Bool
  | .literal c _ => if f.takesChars then !f.ignoresCase else decide (c.toNat < 0x80)
  | .shorthand negated => !f.takesChars && !negated
  | _ => false

/-- The control characters that have a letter. -/
def controls : List (Char × Char) :=
  [('a', '\x07'), ('f', '\x0C'), ('t', '\t'), ('n', '\n'), ('r', '\r'), ('v', '\x0B')]

/-- How many hexadecimal digits follow a letter. -/
def hexLengths : List (Char × Nat) :=
  [('x', 2), ('u', 4), ('U', 8)]

def hexDigit? (c : Char) : Option Nat :=
  if '0' ≤ c ∧ c ≤ '9' then some (c.toNat - '0'.toNat)
  else if 'a' ≤ c ∧ c ≤ 'f' then some (c.toNat - 'a'.toNat + 10)
  else if 'A' ≤ c ∧ c ≤ 'F' then some (c.toNat - 'A'.toNat + 10)
  else none

/-- Reads so many digits after those already read, whose value is given. -/
def readHex? (f : Flags) : Nat → Nat → Text → Option (Nat × Text)
  | 0, value, t => some (value, t)
  | n + 1, value, t => match f.skip t with
    | [] => none
    | c :: cs => (hexDigit? c).bind fun d => readHex? f n (16 * value + d) cs

/-- Reads what follows a backslash. A character that is neither a letter nor a digit stands for
itself. -/
def readEscape? (f : Flags) : Text → Option (Atom × Text)
  | [] => none
  | c :: cs =>
    match hexLengths.lookup c, controls.lookup c with
    | some n, _ => match readHex? f n 0 cs with
      | some (value, rest) =>
        if value.isValidChar then some (.literal (Char.ofNat value) (c == 'x'), rest) else none
      | none => none
    | none, some control => some (.literal control false, cs)
    | none, none =>
      if c ∈ "dsw".toList then some (.shorthand false, cs)
      else if c ∈ "DSW".toList then some (.shorthand true, cs)
      else if c ∈ "bB<>".toList then some (.word, cs)
      else if c ∈ "Az".toList then some (.anchor, cs)
      else if c.toNat < 0x80 ∧ !c.isAlphanum then some (.literal c false, cs)
      else none

end Atom

/-! ## Sets -/

/-- How deeply a sequence of parts is nested, given the depths of the parts. A single part stands
for itself. -/
def depth : List Nat → Nat
  | [] => 0
  | [d] => d
  | ds => ds.foldl max 0 + 1

/-- A set that is open. Depths are those of what has been read of it. -/
structure OpenSet where
  /-- What stands to the left of the last operator, if there is one. -/
  left : Option Nat := none
  /-- The members since then, the last one first. -/
  members : List Nat := []
  /-- Whether nothing but hyphens has been read. -/
  isFresh : Bool := true
  deriving Repr, DecidableEq

namespace OpenSet

def depth (s : OpenSet) : Nat :=
  match s.left with
  | none => Pattern.depth s.members
  | some left => max left (Pattern.depth s.members) + 1

def add (s : OpenSet) (member : Nat) : OpenSet :=
  { s with members := member :: s.members, isFresh := false }

/-- Reads what follows the bracket that opens a set. -/
def open? (f : Flags) (t : Text) : Option (OpenSet × Text) :=
  match f.skip t with
  | '^' :: rest => if f.takesChars then some ({}, rest) else none
  | rest => some ({}, rest)

/-- The classes that have a name. -/
def classNames : List String :=
  ["alnum", "alpha", "ascii", "blank", "cntrl", "digit", "graph", "lower", "print", "punct",
   "space", "upper", "word", "xdigit"]

/-- Reads what follows the bracket that opens a named class. The first answer says whether the
class is negated. -/
def readClass? : Text → Option (Bool × Text)
  | ':' :: t =>
    let isNegated := t.head? == some '^'
    let t := if isNegated then t.drop 1 else t
    let name := t.takeWhile (· ≠ ':')
    match t.drop name.length with
    | ':' :: ']' :: rest =>
      if classNames.contains (String.ofList name) then some (isNegated, rest) else none
    | _ => none
  | _ => none

def readAtom? (f : Flags) : Text → Option (Atom × Text)
  | [] => none
  | '\\' :: cs => Atom.readEscape? f cs
  | c :: cs => some (.literal c false, cs)

/-- Reads a member, which is a single part or a range. -/
def readMember? (f : Flags) (t : Text) : Option Text := do
  let (first, rest) ← readAtom? f t
  if !first.isMember f then none
  else match f.skip rest with
    | '-' :: more =>
      if f.peek more = some ']' ∨ f.peek more = some '-' then some ('-' :: more)
      else
        let (last, rest) ← readAtom? f (f.skip more)
        match first, last with
        | .literal a _, .literal b _ => if a ≤ b ∧ last.isMember f then some rest else none
        | _, _ => none
    | rest => some rest

end OpenSet

/-! ## Groups -/

/-- A group that is open, and what stands before it. -/
structure OpenGroup where
  flags : Flags
  parts : List (Option Nat)
  branches : List Nat
  deriving Repr, DecidableEq

/-- A character that the name of a group can have; the first one is a letter or an underscore. -/
def isNameChar (c : Char) : Bool :=
  isAlphanumeric c || c ∈ "_.[]".toList

/-- Reads the name of a group, which is not among those given before, up to its bracket. -/
def readName? (names : List Text) (t : Text) : Option (Text × Text) :=
  let name := t.takeWhile (· ≠ '>')
  match t.drop name.length with
  | [] => none
  | _ :: rest =>
    let isGood := name.head?.any (fun c => isAlphabetic c || c == '_') && name.all isNameChar
    if isGood && !names.contains name then some (name, rest) else none

/-! ## Reading -/

/-- How far a pattern has been read. -/
structure Reading where
  flags : Flags := {}
  /-- The depths of the parts of the sequence that is open, the last one first. Flags are a part
  without a depth. -/
  parts : List (Option Nat) := []
  /-- The depths of the sequences that are alternatives to it. -/
  branches : List Nat := []
  /-- The groups that are open, the last one first. -/
  groups : List OpenGroup := []
  /-- The sets that are open, the last one first. -/
  sets : List OpenSet := []
  names : List Text := []
  /-- Whether there is a word boundary between characters. -/
  hasBoundary : Bool := false
  deriving Repr, DecidableEq

namespace Reading

def depth (r : Reading) : Nat :=
  Pattern.depth (Pattern.depth (r.parts.map (·.getD 0)) :: r.branches)

def add (r : Reading) (part : Option Nat) : Reading :=
  { r with parts := part :: r.parts }

def addAtom? (r : Reading) (a : Atom) : Option Reading :=
  if a.isAllowed r.flags then
    some { r.add (some 0) with hasBoundary := r.hasBoundary || (a = .word && r.flags.takesChars) }
  else none

def openGroup (r : Reading) (flags : Flags) : Reading :=
  { r with
    flags := flags, parts := [], branches := []
    groups := ⟨r.flags, r.parts, r.branches⟩ :: r.groups }

/-- Reads what follows the parenthesis that opens a group, or sets flags. -/
def readGroup? (r : Reading) (t : Text) : Option (Reading × Text) :=
  let readNamed (t : Text) : Option (Reading × Text) := do
    let (name, rest) ← readName? r.names t
    return (({ r with names := name :: r.names }).openGroup r.flags, rest)
  match r.flags.skip t with
  | '?' :: '<' :: '=' :: _ | '?' :: '<' :: '!' :: _ => none
  | '?' :: 'P' :: '<' :: rest => readNamed rest
  | '?' :: '<' :: rest => readNamed rest
  | '?' :: rest => do
    let (marks, last, rest) ← Flags.read? [] rest
    if last = ':' then return (r.openGroup (r.flags.set marks), rest)
    else if marks = [] then none
    else return ({ r.add none with flags := r.flags.set marks }, rest)
  | rest => some (r.openGroup r.flags, rest)

def closeGroup? (r : Reading) : Option Reading :=
  match r.groups with
  | [] => none
  | g :: groups =>
    some { r with
      flags := g.flags, parts := some (r.depth + 1) :: g.parts, branches := g.branches
      groups := groups }

def repeat? (r : Reading) : Option Reading :=
  match r.parts with
  | some depth :: parts => some { r with parts := some (depth + 1) :: parts }
  | _ => none

/-- Reads a character outside of sets and what belongs to it. -/
def readPart? (r : Reading) (c : Char) (cs : Text) : Option (Reading × Text) :=
  match c with
  | '(' => r.readGroup? cs
  | ')' => r.closeGroup?.map (·, cs)
  | '|' =>
    let sequence := Pattern.depth (r.parts.map (·.getD 0))
    some ({ r with parts := [], branches := sequence :: r.branches }, cs)
  | '[' => do
    let (s, rest) ← OpenSet.open? r.flags cs
    return ({ r with sets := [s] }, rest)
  | '?' | '*' | '+' => r.repeat?.map (·, if cs.head? = some '?' then cs.drop 1 else cs)
  | '{' => none
  | '\\' => do
    let (a, rest) ← Atom.readEscape? r.flags cs
    return (← r.addAtom? a, rest)
  | '.' => (r.addAtom? .any).map (·, cs)
  | '^' | '$' => (r.addAtom? .anchor).map (·, cs)
  | c => (r.addAtom? (.literal c false)).map (·, cs)

def closeSet (r : Reading) (s : OpenSet) (outer : List OpenSet) : Reading :=
  match outer with
  | [] => { r.add (some (s.depth + 1)) with sets := [] }
  | o :: outer => { r with sets := o.add (s.depth + 1) :: outer }

/-- Reads a character in the last set, which is `s`, and what belongs to it. -/
def readSet? (r : Reading) (s : OpenSet) (outer : List OpenSet) (c : Char) (cs : Text) :
    Option (Reading × Text) :=
  let literal := Atom.literal c false
  if s.isFresh ∧ c = '-' ∧ literal.isMember r.flags then
    some ({ r with sets := { s.add 0 with isFresh := true } :: outer }, cs)
  else if s.isFresh ∧ s.members = [] ∧ c = ']' ∧ literal.isMember r.flags then
    some ({ r with sets := s.add 0 :: outer }, cs)
  else if s.isFresh ∧ (c = '-' ∨ (s.members = [] ∧ c = ']')) then none
  else
    let s := { s with isFresh := false }
    if c = ']' then some (r.closeSet s outer, cs)
    else if c = '[' then
      match OpenSet.readClass? cs with
      | some (isNegated, rest) =>
        if if r.flags.takesChars then !r.flags.ignoresCase else !isNegated then
          some ({ r with sets := s.add 0 :: outer }, rest)
        else none
      | none => do
        let (inner, rest) ← OpenSet.open? r.flags cs
        return ({ r with sets := inner :: s :: outer }, rest)
    else if c ∈ "&-~".toList ∧ cs.head? = some c then
      some ({ r with sets := { s with left := some s.depth, members := [] } :: outer }, cs.drop 1)
    else do
      let rest ← OpenSet.readMember? r.flags (c :: cs)
      return ({ r with sets := s.add 0 :: outer }, rest)

/-- Reads a text to its end, in at most so many steps. -/
def readFrom? : Nat → Reading → Text → Option Reading
  | 0, r, _ => some r
  | steps + 1, r, t => match r.flags.skip t with
    | [] => some r
    | c :: cs => do
      let (r, rest) ← match r.sets with
        | [] => r.readPart? c cs
        | s :: outer => r.readSet? s outer c cs
      readFrom? steps r rest

end Reading

/-- How deeply the parts of a pattern can be nested. -/
def maxDepth : Nat := 250

/-- Whether a pattern can be used. Each step of the reading takes at least one character. -/
def check (t : Text) : Except PatternError Unit :=
  match Reading.readFrom? t.length {} t with
  | none => .error .malformed
  | some r =>
    if r.groups ≠ [] ∨ r.sets ≠ [] ∨ maxDepth < r.depth then .error .malformed
    else if r.hasBoundary then .error .wordBoundary
    else .ok ()

end Pattern
end LineShell
