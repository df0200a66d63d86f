/-!
# Text and bytes

Command lines, words, paths and messages are `Text`, lists of characters; what moves through a
stream or lies in a file is `Bytes`. Both are plain lists, so that scanning, splitting and joining
are recursions on the data.

This module holds the blank characters, splitting at a separator, and numbers. An integer is read
from an optional sign and at least one ASCII digit, and nothing else.
-/

namespace LineShell

abbrev Text := List Char

abbrev Bytes := List UInt8

/-! ## Blank characters -/

/-- The code points with the Unicode property White_Space, as inclusive ranges. -/
def blankRanges : List (Nat × Nat) :=
  [(0x09, 0x0D), (0x20, 0x20), (0x85, 0x85), (0xA0, 0xA0), (0x1680, 0x1680), (0x2000, 0x200A),
   (0x2028, 0x2029), (0x202F, 0x202F), (0x205F, 0x205F), (0x3000, 0x3000)]

/-- Whether a character is in one of some inclusive ranges of code points. -/
def inRanges (ranges : List (Nat × Nat)) (c : Char) : Bool :=
  ranges.any fun r => decide (r.1 ≤ c.toNat) && decide (c.toNat ≤ r.2)

/-- A blank character separates words. -/
def isBlank (c : Char) : Bool :=
  inRanges blankRanges c

namespace Text

/-! ## Splitting -/

/-- The pieces of a text, or of bytes, between the occurrences of a separator, empty ones
included. -/
def split {α : Type} [DecidableEq α] (sep : α) : List α → List (List α)
  | [] => [[]]
  | c :: cs =>
    if c = sep then [] :: split sep cs
    else match split sep cs with
      | [] => [[c]]
      | w :: ws => (c :: w) :: ws

theorem split_ne_nil {α : Type} [DecidableEq α] (sep : α) (t : List α) : split sep t ≠ [] := by
  cases t with
  | nil => simp [split]
  | cons c cs =>
    rw [split]
    split
    · simp
    · split <;> simp

/-- A text without the blank characters at its two ends. -/
def trim (t : Text) : Text :=
  ((t.dropWhile isBlank).reverse.dropWhile isBlank).reverse

/-- The text before the first occurrence of a phrase; all of it if the phrase does not occur. -/
def before (phrase : Text) : Text → Text
  | [] => []
  | c :: cs => if phrase.isPrefixOf (c :: cs) then [] else c :: before phrase cs

/-- Texts joined with a separator between neighbours. -/
def join (sep : Text) (ts : List Text) : Text :=
  sep.intercalate ts

/-! ## Decimal numbers -/

/-- The decimal digits of a natural number, without leading zeros. -/
def ofNat (n : Nat) : Text :=
  Nat.toDigits 10 n

/-- The decimal text of an integer: a minus sign if negative, then the digits. -/
def ofInt : Int → Text
  | .ofNat n => ofNat n
  | .negSucc n => '-' :: ofNat (n + 1)

def digit? (c : Char) : Option Nat :=
  if '0' ≤ c ∧ c ≤ '9' then some (c.toNat - '0'.toNat) else none

/-- Reads digits after those already read, whose value is given. -/
def digitsFrom? (value : Nat) : Text → Option Nat
  | [] => some value
  | c :: cs => match digit? c with
    | none => none
    | some d => digitsFrom? (10 * value + d) cs

/-- The number that a non-empty run of ASCII digits denotes; leading zeros do not matter. -/
def toNat? : Text → Option Nat
  | [] => none
  | c :: cs => digitsFrom? 0 (c :: cs)

/-- The integer that a text denotes: an optional plus or minus sign, then digits. -/
def toInt? : Text → Option Int
  | '+' :: cs => (toNat? cs).map Int.ofNat
  | '-' :: cs => (toNat? cs).map fun n => -Int.ofNat n
  | cs => (toNat? cs).map Int.ofNat

/-! ## Real numbers -/

/-- Whether a text is a number in decimal notation without its sign: digits with at most one point
among them, and after them at most one exponent, which can have a sign. -/
def isDecimal (t : Text) : Bool :=
  let whole := t.takeWhile Char.isDigit
  let rest := t.drop whole.length
  let fraction := match rest with
    | '.' :: more => more.takeWhile Char.isDigit
    | _ => []
  let rest := match rest with
    | '.' :: more => more.drop fraction.length
    | _ => rest
  let isExponent := match rest with
    | [] => true
    | 'e' :: more | 'E' :: more => (toInt? more).isSome
    | _ => false
  (whole ≠ [] || fraction ≠ []) && isExponent

/-- Whether a text is a real number: after an optional sign a number in decimal notation, infinity,
or the word for what is no number. -/
def isReal (t : Text) : Bool :=
  let unsigned := match t with
    | '+' :: rest | '-' :: rest => rest
    | _ => t
  isDecimal unsigned
    || ["inf", "infinity", "nan"].contains (String.ofList (unsigned.map Char.toLower))

end Text
end LineShell
