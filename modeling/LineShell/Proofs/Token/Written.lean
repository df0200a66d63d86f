import LineShell.Token

/-!
# Writing tokens as a line

A word is written in pieces: runs between single quotes, runs between double quotes, characters
after a backslash and bare characters, in any mix. `Written ts line` says that `line` writes the
tokens `ts`, with blanks between them. Two places need care: neighbouring words must be kept apart
by a blank, and a bare `1` must not stand right before a bare `>`, which would make it part of an
operator.

Scanning undoes writing (`tokenize_of_written`): each piece contributes its letters to the current
word whatever follows it (`scan_piece`), so the mix of pieces does not matter. Scanning yields no
empty word (`word_nil_not_mem_tokenize`), and every token list without an empty word can be written
(`exists_written`).
-/

namespace LineShell
namespace Token

/-! ## Pieces of a word -/

/-- A character that stands for itself outside quotes. -/
def IsBare (c : Char) : Prop :=
  isBlank c = false ∧ c ≠ '\'' ∧ c ≠ '\"' ∧ c ≠ '\\' ∧ c ≠ '>'

instance (c : Char) : Decidable (IsBare c) :=
  inferInstanceAs (Decidable (_ ∧ _))

/-- A character between double quotes, as it is written. -/
inductive QuotedLetter where
  | plain (c : Char) (free : c ≠ '\"' ∧ c ≠ '\\')
  /-- A backslash and any character. -/
  | escaped (c : Char)

/-- A piece of a word, as it is written. -/
inductive Piece where
  /-- A run between single quotes. -/
  | single (run : Text) (free : '\'' ∉ run)
  /-- A run between double quotes. -/
  | double (run : List QuotedLetter)
  /-- A backslash and any character. -/
  | escaped (c : Char)
  | bare (c : Char) (free : IsBare c)

namespace QuotedLetter

def letter : QuotedLetter → Char
  | .plain c _ => c
  | .escaped c => c

def spelling : QuotedLetter → Text
  | .plain c _ => [c]
  | .escaped c => ['\\', c]

end QuotedLetter

namespace Piece

/-- What a piece stands for. -/
def letters : Piece → Text
  | .single run _ => run
  | .double run => run.map QuotedLetter.letter
  | .escaped c => [c]
  | .bare c _ => [c]

/-- How a piece is written. -/
def spelling : Piece → Text
  | .single run _ => '\'' :: (run ++ ['\''])
  | .double run => '\"' :: (run.flatMap QuotedLetter.spelling ++ ['\"'])
  | .escaped c => ['\\', c]
  | .bare c _ => [c]

/-- The bare piece `1`, which a `>` right after it would take into an operator. -/
def IsOne : Piece → Prop
  | .bare c _ => c = '1'
  | _ => False

end Piece

/-- What a word written in pieces is. -/
def wordOf (ps : List Piece) : Text := ps.flatMap Piece.letters

def spellingOf (ps : List Piece) : Text := ps.flatMap Piece.spelling

/-! ## Lines that write tokens -/

/-- Nothing but blanks. -/
def IsGap (gap : Text) : Prop := ∀ c ∈ gap, isBlank c = true

instance (gap : Text) : Decidable (IsGap gap) :=
  List.decidableBAll (fun c => isBlank c = true) gap

/-- `line` writes the tokens `ts` in order. Any blanks may stand before each token and at the end
of the line. -/
inductive Written : List Token → Text → Prop
  | blanks {gap : Text} (hgap : IsGap gap) : Written [] gap
  | redirect {gap : Text} (hgap : IsGap gap) (op : Operator) {ts : List Token} {rest : Text}
      (hrest : Written ts rest) :
      Written (.redirect op :: ts) (gap ++ op.text ++ rest)
  /-- What follows a word begins with a blank if it is a word, and not with `>` if the word ends in
  a bare `1`. -/
  | word {gap : Text} (hgap : IsGap gap) (ps : List Piece) (hps : wordOf ps ≠ [])
      {ts : List Token} {rest : Text}
      (hword : ∀ w, ts.head? = some (.word w) → ∃ c ∈ rest.head?, isBlank c = true)
      (hone : ∀ p ∈ ps.getLast?, p.IsOne → rest.head? ≠ some '>')
      (hrest : Written ts rest) :
      Written (.word (wordOf ps) :: ts) (gap ++ spellingOf ps ++ rest)

/-! ## Scanning a piece

Each lemma says what the scanner does with a piece, whatever follows it: it adds the piece's
letters to the current word and reads on outside quotes. -/

/-- Adds letters to the front of the current word. -/
def prepend (w : Text) (x : Text × List Token) : Text × List Token :=
  (w ++ x.1, x.2)

@[simp] theorem prepend_nil (x : Text × List Token) : prepend [] x = x := rfl

@[simp] theorem letter_prepend (c : Char) (w : Text) (x : Text × List Token) :
    letter c (prepend w x) = prepend (c :: w) x := rfl

theorem prepend_prepend (v w : Text) (x : Text × List Token) :
    prepend v (prepend w x) = prepend (v ++ w) x := by
  simp [prepend]

theorem scan_single_run {run : Text} (h : '\'' ∉ run) (rest : Text) :
    scan .single (run ++ '\'' :: rest) = prepend run (scan .bare rest) := by
  induction run with
  | nil => simp [scan]
  | cons c run ih =>
      have hc : c ≠ '\'' := (List.ne_of_not_mem_cons h).symm
      rw [List.cons_append, scan, if_neg hc, ih (List.not_mem_of_not_mem_cons h), letter_prepend]

theorem scan_double_run (run : List QuotedLetter) (rest : Text) :
    scan .double (run.flatMap QuotedLetter.spelling ++ '\"' :: rest)
      = prepend (run.map QuotedLetter.letter) (scan .bare rest) := by
  induction run with
  | nil => simp [scan]
  | cons l run ih =>
      rw [List.flatMap_cons, List.append_assoc, List.map_cons]
      cases l with
      | plain c hc =>
          simp only [QuotedLetter.spelling, QuotedLetter.letter, List.cons_append,
            List.nil_append]
          rw [scan, if_neg hc.1, if_neg hc.2, ih, letter_prepend]
      | escaped c =>
          simp only [QuotedLetter.spelling, QuotedLetter.letter, List.cons_append,
            List.nil_append]
          rw [scan, if_neg (by decide), if_pos rfl, scan, ih, letter_prepend]

/-- A bare character is a letter, unless it is a `1` right before a `>`. -/
theorem scan_bare {c : Char} (hc : IsBare c) {rest : Text}
    (hone : c = '1' → rest.head? ≠ some '>') :
    scan .bare (c :: rest) = letter c (scan .bare rest) := by
  obtain ⟨hblank, hsingle, hdouble, hback, hop⟩ := hc
  rw [scan]
  · simp [hblank, hsingle, hdouble, hback, hop]
  · intro cs hc hrest
    exact hone hc (by simp [hrest])

theorem scan_piece (p : Piece) {rest : Text} (hone : p.IsOne → rest.head? ≠ some '>') :
    scan .bare (p.spelling ++ rest) = prepend p.letters (scan .bare rest) := by
  cases p with
  | single run hrun =>
      simp only [Piece.spelling, Piece.letters, List.cons_append, List.append_assoc]
      rw [scan, if_pos rfl]
      · exact scan_single_run hrun rest
      · simp
  | double run =>
      simp only [Piece.spelling, Piece.letters, List.cons_append, List.append_assoc]
      rw [scan, if_neg (by decide), if_pos rfl]
      · exact scan_double_run run rest
      · simp
  | escaped c =>
      simp only [Piece.spelling, Piece.letters, List.cons_append, List.nil_append]
      rw [scan, if_neg (by decide), if_neg (by decide), if_pos rfl, scan]
      · rfl
      · simp
  | bare c hc => exact scan_bare hc hone

/-- No piece begins like an operator, so a bare `1` inside a word is safe. -/
theorem head?_spelling_ne (p : Piece) (rest : Text) :
    (p.spelling ++ rest).head? ≠ some '>' := by
  cases p with
  | single run _ => simp [Piece.spelling]
  | double run => simp [Piece.spelling]
  | escaped c => simp [Piece.spelling]
  | bare c hc => simpa [Piece.spelling] using hc.2.2.2.2

theorem scan_pieces {ps : List Piece} {rest : Text}
    (hone : ∀ p ∈ ps.getLast?, p.IsOne → rest.head? ≠ some '>') :
    scan .bare (spellingOf ps ++ rest) = prepend (wordOf ps) (scan .bare rest) := by
  induction ps with
  | nil => rfl
  | cons p ps ih =>
      have hps : ∀ q ∈ ps.getLast?, q.IsOne → rest.head? ≠ some '>' := by
        intro q hq
        exact hone q (by rw [List.getLast?_cons, Option.mem_def.mp hq]; rfl)
      have hp : p.IsOne → (spellingOf ps ++ rest).head? ≠ some '>' := by
        intro h
        cases ps with
        | nil => exact hone p rfl h
        | cons q qs =>
            rw [spellingOf, List.flatMap_cons, List.append_assoc]
            exact head?_spelling_ne q _
      calc scan .bare (spellingOf (p :: ps) ++ rest)
          = scan .bare (p.spelling ++ (spellingOf ps ++ rest)) := by
            rw [spellingOf, List.flatMap_cons, List.append_assoc, spellingOf]
        _ = prepend p.letters (prepend (wordOf ps) (scan .bare rest)) := by
            rw [scan_piece p hp, ih hps]
        _ = prepend (wordOf (p :: ps)) (scan .bare rest) := by
            rw [prepend_prepend, wordOf, wordOf, List.flatMap_cons]

/-! ## Scanning between words -/

theorem scan_blank {c : Char} (hc : isBlank c = true) (rest : Text) :
    scan .bare (c :: rest) = ([], tokenize rest) := by
  have hne : ∀ d : Char, isBlank d = false → c ≠ d := by
    rintro d hd rfl
    rw [hc] at hd
    cases hd
  rw [scan, if_neg (hne _ (by decide)), if_neg (hne _ (by decide)), if_neg (hne _ (by decide)),
    if_neg (hne _ (by decide)), if_pos hc]
  · rfl
  · intro cs h
    exact absurd h (hne _ (by decide))

theorem scan_operator (op : Operator) (rest : Text) :
    scan .bare (op.text ++ rest) = ([], .redirect op :: tokenize rest) := by
  cases op with
  | plain =>
      show scan .bare ('>' :: rest) = _
      rw [scan, if_neg (by decide), if_neg (by decide), if_neg (by decide), if_pos rfl]
      · rfl
      · simp
  | numbered => rfl

theorem tokenize_operator (op : Operator) (rest : Text) :
    tokenize (op.text ++ rest) = .redirect op :: tokenize rest := by
  rw [tokenize, scan_operator, close]

theorem tokenize_gap {gap : Text} (hgap : IsGap gap) (rest : Text) :
    tokenize (gap ++ rest) = tokenize rest := by
  induction gap with
  | nil => rfl
  | cons c gap ih =>
      rw [List.cons_append, tokenize, scan_blank (hgap c (List.mem_cons_self ..)), close]
      exact ih fun d hd => hgap d (List.mem_cons_of_mem _ hd)

/-- A gap does not turn the end of a word into a part of it. -/
theorem scan_gap_fst {gap : Text} (hgap : IsGap gap) {rest : Text}
    (hrest : (scan .bare rest).1 = []) : (scan .bare (gap ++ rest)).1 = [] := by
  cases gap with
  | nil => exact hrest
  | cons c gap => rw [List.cons_append, scan_blank (hgap c (List.mem_cons_self ..))]

theorem close_prepend {w : Text} (hw : w ≠ []) {x : Text × List Token} (hx : x.1 = []) :
    close (prepend w x) = .word w :: close x := by
  obtain ⟨v, ts⟩ := x
  obtain rfl : v = [] := hx
  cases w with
  | nil => exact absurd rfl hw
  | cons c w => simp [prepend, close]

/-! ## Scanning undoes writing -/

/-- What is written after a word does not continue it. -/
theorem Written.scan_fst {ts : List Token} {line : Text} (h : Written ts line)
    (hword : ∀ w, ts.head? = some (.word w) → ∃ c ∈ line.head?, isBlank c = true) :
    (scan .bare line).1 = [] := by
  cases h with
  | blanks hgap => rw [← List.append_nil line]; exact scan_gap_fst hgap rfl
  | redirect hgap op hrest =>
      rw [List.append_assoc]
      exact scan_gap_fst hgap (by rw [scan_operator])
  | word hgap ps hps _ _ _ =>
      obtain ⟨c, hhead, hc⟩ := hword _ rfl
      obtain ⟨more, hline⟩ := List.head?_eq_some_iff.mp hhead
      rw [hline, scan_blank hc]

theorem tokenize_of_written {ts : List Token} {line : Text} (h : Written ts line) :
    tokenize line = ts := by
  induction h with
  | @blanks gap hgap => rw [← List.append_nil gap, tokenize_gap hgap]; rfl
  | redirect hgap op _ ih =>
      rw [List.append_assoc, tokenize_gap hgap, tokenize_operator, ih]
  | word hgap ps hps hword hone hrest ih =>
      rw [List.append_assoc, tokenize_gap hgap, tokenize, scan_pieces hone,
        close_prepend hps (hrest.scan_fst hword), ← tokenize, ih]

/-! ## Every token list without an empty word can be written -/

/-- Any word can be written with a backslash before each character. -/
theorem wordOf_escaped (w : Text) : wordOf (w.map .escaped) = w := by
  induction w with
  | nil => rfl
  | cons c w ih =>
      rw [List.map_cons, wordOf, List.flatMap_cons, ← wordOf, ih]
      rfl

theorem exists_written {ts : List Token} (h : .word [] ∉ ts) :
    ∃ line, Written ts line ∧ ∃ c ∈ line.head?, isBlank c = true := by
  have hgap : IsGap [' '] := by decide
  induction ts with
  | nil => exact ⟨[' '], .blanks hgap, ' ', rfl, by decide⟩
  | cons t ts ih =>
      obtain ⟨rest, hrest, hblank⟩ := ih (List.not_mem_of_not_mem_cons h)
      cases t with
      | redirect op => exact ⟨_, .redirect hgap op hrest, ' ', rfl, by decide⟩
      | word w =>
          have hw : wordOf (w.map .escaped) ≠ [] := by
            rw [wordOf_escaped]
            exact fun hnil => List.ne_of_not_mem_cons h (by rw [hnil])
          have hone : ∀ p ∈ (w.map Piece.escaped).getLast?, p.IsOne → rest.head? ≠ some '>' := by
            intro p hp
            obtain ⟨c, -, rfl⟩ := List.mem_map.mp (List.mem_of_getLast? hp)
            exact False.elim
          have hline := Written.word hgap _ hw (fun _ _ => hblank) hone hrest
          rw [wordOf_escaped] at hline
          exact ⟨_, hline, ' ', rfl, by decide⟩

/-! ## No word is empty -/

theorem word_nil_not_mem_close {x : Text × List Token} (h : .word [] ∉ x.2) :
    .word [] ∉ close x := by
  obtain ⟨w, ts⟩ := x
  cases w with
  | nil => exact h
  | cons c w => simpa [close] using h

theorem word_nil_not_mem_scan (m : Mode) (t : Text) : .word [] ∉ (scan m t).2 := by
  fun_induction scan m t with
  | case1 => exact List.not_mem_nil
  | case9 cs ih => simpa using word_nil_not_mem_close ih
  | case13 cs _ _ _ _ ih => simpa using word_nil_not_mem_close ih
  | case14 c cs _ _ _ _ _ _ ih => exact word_nil_not_mem_close ih
  -- Everywhere else the tokens are those of the rest of the line.
  | _ => rename_i ih; exact ih

theorem word_nil_not_mem_tokenize (line : Text) : .word [] ∉ tokenize line :=
  word_nil_not_mem_close (word_nil_not_mem_scan .bare line)

/-! ## The quoting grammar -/

/-- Whatever way a token list is written, scanning gives it back; and the lists that can be written,
like the lists that come out of scanning, are those without an empty word. -/
theorem tokenize_inverts_writing :
    (∀ ts line, Written ts line → tokenize line = ts)
      ∧ (∀ ts, (∃ line, Written ts line) ↔ .word [] ∉ ts)
      ∧ (∀ line, .word [] ∉ tokenize line)
      ∧ ∀ ts, (∃ line, tokenize line = ts) ↔ .word [] ∉ ts := by
  have hread : ∀ ts line, Written ts line → tokenize line = ts :=
    fun _ _ h => tokenize_of_written h
  have hwritable : ∀ ts, (∃ line, Written ts line) ↔ .word [] ∉ ts := by
    intro ts
    constructor
    · rintro ⟨line, hline⟩
      rw [← hread ts line hline]
      exact word_nil_not_mem_tokenize line
    · intro hts
      obtain ⟨line, hline, -⟩ := exists_written hts
      exact ⟨line, hline⟩
  refine ⟨hread, hwritable, word_nil_not_mem_tokenize, fun ts => ⟨?_, ?_⟩⟩
  · rintro ⟨line, rfl⟩
    exact word_nil_not_mem_tokenize line
  · intro hts
    obtain ⟨line, hline⟩ := (hwritable ts).mpr hts
    exact ⟨line, hread ts line hline⟩

/-- All kinds of pieces in one line: a bare `1` before a blank, and a word that ends in a quoted `1`
right before an operator. -/
theorem tokenize_inverts_writing_mixed :
    Written
        [.word ['a', '\"', '1'], .redirect .numbered, .word ['>', '1'], .redirect .plain,
          .word ['f']]
        ['a', '\"', '\\', '\"', '\"', '1', ' ', '1', '>', '\\', '>', '\'', '1', '\'', '>', 'f']
      ∧ tokenize
          ['a', '\"', '\\', '\"', '\"', '1', ' ', '1', '>', '\\', '>', '\'', '1', '\'', '>', 'f']
        = [.word ['a', '\"', '1'], .redirect .numbered, .word ['>', '1'], .redirect .plain,
          .word ['f']] := by
  have hnone : IsGap [] := by decide
  have hblank : IsGap [' '] := by decide
  have file : Written [.word ['f']] ['f'] :=
    .word hnone [.bare 'f' (by decide)] (by decide) (by simp) (by simp) (.blanks hnone)
  have middle : Written [.word ['>', '1'], .redirect .plain, .word ['f']]
      ['\\', '>', '\'', '1', '\'', '>', 'f'] :=
    .word hnone [.escaped '>', .single ['1'] (by decide)] (by decide) (by simp)
      (by simp [Piece.IsOne]) (.redirect hnone .plain file)
  have hline : Written
      [.word ['a', '\"', '1'], .redirect .numbered, .word ['>', '1'], .redirect .plain, .word ['f']]
      ['a', '\"', '\\', '\"', '\"', '1', ' ', '1', '>', '\\', '>', '\'', '1', '\'', '>', 'f'] :=
    .word hnone
      [.bare 'a' (by decide), .double [.escaped '\"'], .bare '1' (by decide)]
      (by decide) (by simp) (by simp) (.redirect hblank .numbered middle)
  exact ⟨hline, tokenize_inverts_writing.1 _ _ hline⟩

end Token
end LineShell
