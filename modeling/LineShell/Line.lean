import LineShell.Utf8

/-!
# Lines of bytes

A line ends with its newline byte; the last line of an input may lack one. Cutting a line off loses
nothing (`cut_append`), and cuts something off whenever there is something (`cut_fst_ne_nil`).

The text of a line is what stands before its newline, without a carriage return right before that
newline. A carriage return in a line that has no newline stays.
-/

namespace LineShell.Line

def newline : UInt8 := 10

def carriageReturn : UInt8 := 13

/-- The first line, its newline included, and what follows it. -/
def cut : Bytes → Bytes × Bytes
  | [] => ([], [])
  | b :: bs =>
    if b = newline then ([b], bs)
    else
      let (line, rest) := cut bs
      (b :: line, rest)

theorem cut_append (bs : Bytes) : (cut bs).1 ++ (cut bs).2 = bs := by
  induction bs with
  | nil => rfl
  | cons b bs ih => rw [cut]; split <;> simp_all

theorem cut_fst_ne_nil {bs : Bytes} (h : bs ≠ []) : (cut bs).1 ≠ [] := by
  cases bs with
  | nil => exact absurd rfl h
  | cons b bs => rw [cut]; split <;> simp

def isEnded (line : Bytes) : Bool :=
  line.getLast? == some newline

/-- Nothing follows a line that lacks its newline. -/
theorem cut_snd_eq_nil {bs : Bytes} (h : isEnded (cut bs).1 = false) : (cut bs).2 = [] := by
  induction bs with
  | nil => rfl
  | cons b bs ih =>
    rw [cut] at h ⊢
    split
    · next hb => simp [hb, isEnded] at h
    · next hb =>
      simp only [hb, if_false] at h
      apply ih
      cases hl : (cut bs).1 with
      | nil => rfl
      | cons c cs => simpa [isEnded, hl] using h

/-- A line without its newline and without a carriage return right before that. -/
def content (line : Bytes) : Bytes :=
  if isEnded line then
    let body := line.dropLast
    if body.getLast? == some carriageReturn then body.dropLast else body
  else line

def ofText (t : Text) : Bytes :=
  Utf8.encode (t ++ ['\n'])

end LineShell.Line
