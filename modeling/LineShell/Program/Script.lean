import LineShell.Text

/-!
# Script headers

A file that is no program image can still be executed if its first `headerSize` bytes are a header:
`#!`, the interpreter's path, and at most one argument, which is all that is left of the line. A
short file counts as if NUL bytes followed it. NUL bytes end the path and the argument, so both can
be empty; a header without a newline is good if a gap or a NUL byte ends the path within the bytes
that count.
-/

namespace LineShell.Script

/-- How many bytes of a file the system looks at. -/
def headerSize : Nat := 256

/-- Spaces and tabs separate the path from the argument. -/
def isGap (b : UInt8) : Bool :=
  b == 32 || b == 9

/-- The bytes that the system looks at. -/
def header (file : Bytes) : Bytes :=
  (file.take headerSize).rightpad headerSize 0

/-- What follows the mark `#!` on the first line, without the gaps at its end. -/
def headerLine? (file : Bytes) : Option Bytes :=
  let line? := match header file with
    | 35 :: 33 :: rest =>
      if (rest.takeWhile (· ≠ 0)).contains 10 then some (rest.takeWhile (· ≠ 10))
      else if (rest.dropWhile isGap).any fun b => isGap b || b == 0 then some rest.dropLast
      else none
    | _ => none
  line?.map fun line => (line.reverse.dropWhile isGap).reverse

/-- The interpreter that a script names, and the argument it gives to it. -/
def interpreter? (file : Bytes) : Option (Bytes × Option Bytes) :=
  match headerLine? file with
  | none | some [] => none
  | some line =>
    let words := line.dropWhile isGap
    let path := words.takeWhile fun b => !isGap b && b != 0
    let argument := match words.drop path.length with
      | b :: more => if isGap b then some ((more.dropWhile isGap).takeWhile (· ≠ 0)) else none
      | [] => none
    some (path, argument)

end LineShell.Script
