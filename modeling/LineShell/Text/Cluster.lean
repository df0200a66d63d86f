import LineShell.Text.ClusterRanges

/-!
# Clusters

A cluster is what a reader takes for one character: a letter with its marks, a syllable, a flag, a
joined pictograph. Whether a cluster goes on is decided from left to right; the decision rests on
the class of the next character, the class of the last one, and three facts about what came before:
whether a pictograph or a consonant waits to be joined, and whether a flag is half written.
-/

namespace LineShell.Cluster

/-! ## Classes -/

/-- The part that a character can take in a cluster. -/
inductive Kind where
  | carriageReturn
  | lineFeed
  | control
  | extend
  /-- The character that keeps its neighbours apart; it extends but it links nothing. -/
  | nonJoiner
  | joiner
  | linker
  | spacing
  | prepend
  /-- One of the two halves of a flag. -/
  | regional
  /-- A leading consonant of a Hangul syllable. -/
  | leading
  /-- A vowel of a Hangul syllable. -/
  | vowel
  /-- A trailing consonant of a Hangul syllable. -/
  | trailing
  /-- A Hangul syllable without a trailing consonant. -/
  | openSyllable
  /-- A Hangul syllable with one. -/
  | closedSyllable
  | pictograph
  | consonant
  | other
  deriving Repr, DecidableEq

def kind (c : Char) : Kind :=
  let n := c.toNat
  if n = 0x0D then .carriageReturn
  else if n = 0x0A then .lineFeed
  else if 0x20 ≤ n ∧ n < 0x7F then .other
  else if n = 0x200C then .nonJoiner
  else if n = 0x200D then .joiner
  else if 0xAC00 ≤ n ∧ n ≤ 0xD7A3 then
    if (n - 0xAC00) % 28 = 0 then .openSyllable else .closedSyllable
  else if inRanges [(0x1100, 0x115F), (0xA960, 0xA97C)] c then .leading
  else if inRanges [(0x1160, 0x11A7), (0xD7B0, 0xD7C6), (0x16D63, 0x16D63), (0x16D67, 0x16D6A)] c
    then .vowel
  else if inRanges [(0x11A8, 0x11FF), (0xD7CB, 0xD7FB)] c then .trailing
  else if 0x1F1E6 ≤ n ∧ n ≤ 0x1F1FF then .regional
  else if inRanges controlRanges c then .control
  else if inRanges linkerRanges c then .linker
  else if inRanges extendRanges c then .extend
  else if inRanges spacingRanges c then .spacing
  else if inRanges prependRanges c then .prepend
  else if inRanges consonantRanges c then .consonant
  else if inRanges pictographRanges c then .pictograph
  else .other

namespace Kind

/-- A character that stands alone. -/
def isAlone : Kind → Bool
  | .carriageReturn | .lineFeed | .control => true
  | _ => false

/-- A character that never begins a cluster unless it follows one that stands alone. -/
def isMark : Kind → Bool
  | .extend | .nonJoiner | .joiner | .linker | .spacing => true
  | _ => false

/-- Whether two neighbours belong to one Hangul syllable. -/
def isSyllable : Kind → Kind → Bool
  | .leading, .leading | .leading, .vowel | .leading, .openSyllable | .leading, .closedSyllable =>
    true
  | .openSyllable, .vowel | .openSyllable, .trailing | .vowel, .vowel | .vowel, .trailing => true
  | .closedSyllable, .trailing | .trailing, .trailing => true
  | _, _ => false

end Kind

/-! ## What came before -/

/-- How far a combination has come. -/
inductive Progress where
  | idle
  /-- Its first part is there. -/
  | begun
  /-- The character that joins the next part is there too. -/
  | linked
  deriving Repr, DecidableEq

/-- What decides whether the next character goes on with the cluster. -/
structure Context where
  last : Kind
  pictograph : Progress
  conjunct : Progress
  /-- Whether the last character is the first half of a flag. -/
  halfFlag : Bool
  deriving Repr, DecidableEq

namespace Context

/-- Before a text. -/
def start : Context := ⟨.control, .idle, .idle, false⟩

/-- After one more character. -/
def next (ctx : Context) (k : Kind) : Context where
  last := k
  pictograph := match k, ctx.pictograph with
    | .pictograph, _ => .begun
    | .extend, .begun | .nonJoiner, .begun | .linker, .begun => .begun
    | .joiner, .begun => .linked
    | _, _ => .idle
  conjunct := match k, ctx.conjunct with
    | .consonant, _ => .begun
    | .linker, .begun | .linker, .linked => .linked
    | .extend, p | .joiner, p => p
    | _, _ => .idle
  halfFlag := k == .regional && !ctx.halfFlag

/-- Whether a character goes on with the cluster. -/
def joins (ctx : Context) (k : Kind) : Bool :=
  if ctx.last = .carriageReturn ∧ k = .lineFeed then true
  else if ctx.last.isAlone || k.isAlone then false
  else k.isMark || ctx.last == .prepend || ctx.last.isSyllable k
    || (k == .consonant && ctx.conjunct == .linked)
    || (k == .pictograph && ctx.pictograph == .linked)
    || (k == .regional && ctx.halfFlag)

end Context

/-! ## Dividing a text -/

/-- What goes on with the current cluster, and the clusters after it. -/
def divide (ctx : Context) : Text → Text × List Text
  | [] => ([], [])
  | c :: cs =>
    let rest := divide (ctx.next (kind c)) cs
    if ctx.joins (kind c) then (c :: rest.1, rest.2) else ([], (c :: rest.1) :: rest.2)

end Cluster

namespace Text

/-- The clusters of a text; nothing is joined to what comes before it. -/
def clusters (t : Text) : List Text :=
  (Cluster.divide .start t).2

end Text
end LineShell
