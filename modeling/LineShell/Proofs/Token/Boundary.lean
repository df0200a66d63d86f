import LineShell.Proofs.Token.Written
import Mathlib.Data.List.Basic
import Mathlib.Tactic.SplitIfs

/-!
# Where a line can be cut

A line can be cut where the scanner stands outside quotes and waits for no character: a blank or an
operator there ends the word before it, so the tokens of the line are those of its two sides, the
right one scanned from the start. The one exception is a bare `1` on the left of `>`, which together
are the other operator (`tokenize_composes`).

A line that ends inside quotes or after a backslash has the tokens of its `completion`, which leaves
out the waiting backslash and closes the open quote, and at whose end a line can be cut
(`completion_closes`).

Both rest on one lemma about a line that is read on in the mode in which its first part ends: when
what follows does not continue the current word, it adds its tokens at the end (`scan_append`). It
is by induction on the first part, over what each character contributes in the mode in which the
scanner comes to it (`scan_cons`).
-/

namespace LineShell

/-! ## Modes -/

namespace Mode

/-- A backslash waits for the character after it. -/
def isPending : Mode → Bool
  | .bareEscape | .doubleEscape => true
  | .bare | .single | .double => false

/-- A backslash makes the next character plain. -/
def heedsBackslash : Mode → Bool
  | .bare | .double => true
  | .single | .bareEscape | .doubleEscape => false

/-- The quote that is open. -/
def openQuote? : Mode → Option Char
  | .single => some '\''
  | .double | .doubleEscape => some '\"'
  | .bare | .bareEscape => none

theorem after_append (m : Mode) (s t : Text) : m.after (s ++ t) = (m.after s).after t :=
  List.foldl_append

theorem after_concat (m : Mode) (s : Text) (c : Char) : m.after (s ++ [c]) = (m.after s).next c :=
  after_append m s [c]

theorem isPending_next (m : Mode) (c : Char) :
    (m.next c).isPending = true ↔ m.heedsBackslash = true ∧ c = '\\' := by
  cases m with
  | bareEscape => simp [next, isPending, heedsBackslash]
  | doubleEscape => simp [next, isPending, heedsBackslash]
  | single =>
      rw [next]
      split_ifs <;> simp [isPending, heedsBackslash]
  | double =>
      rw [next]
      split_ifs <;> simp_all [isPending, heedsBackslash]
  | bare =>
      rw [next]
      split_ifs <;> simp_all [isPending, heedsBackslash]

theorem eq_of_heedsBackslash {m : Mode} (h : m.heedsBackslash = true) :
    m = .bare ∨ m = .double := by
  cases m with
  | bare => exact Or.inl rfl
  | double => exact Or.inr rfl
  | single => cases h
  | bareEscape => cases h
  | doubleEscape => cases h

/-- A backslash leaves open the quote that is open. -/
theorem openQuote?_next_backslash {m : Mode} (h : m.heedsBackslash = true) :
    (m.next '\\').openQuote? = m.openQuote? := by
  rcases eq_of_heedsBackslash h with rfl | rfl <;> rfl

theorem not_isPending_of_heedsBackslash {m : Mode} (h : m.heedsBackslash = true) :
    m.isPending = false := by
  rcases eq_of_heedsBackslash h with rfl | rfl <;> rfl

/-- What waits at the end of a line is its last character, a backslash. -/
theorem isPending_after (m : Mode) (hm : m.isPending = false) (line : Text) :
    (m.after line).isPending = true
      ↔ ∃ front, line = front ++ ['\\'] ∧ (m.after front).heedsBackslash = true := by
  rcases List.eq_nil_or_concat' line with rfl | ⟨front, c, rfl⟩
  · simp [after, hm]
  · rw [after_concat, isPending_next]
    constructor
    · rintro ⟨hfront, rfl⟩
      exact ⟨front, rfl, hfront⟩
    · rintro ⟨front', hline, hfront⟩
      obtain ⟨rfl, hc⟩ := List.append_inj' hline rfl
      exact ⟨hfront, List.singleton_inj.mp hc⟩

end Mode

namespace Token

/-! ## Scanning one character -/

/-- What a character adds, in its mode, to what is scanned after it. -/
def contribute (m : Mode) (c : Char) (x : Text × List Token) : Text × List Token :=
  match m with
  | .bareEscape | .doubleEscape => letter c x
  | .single => if c = '\'' then x else letter c x
  | .double => if c = '\"' ∨ c = '\\' then x else letter c x
  | .bare =>
    if c = '\'' ∨ c = '\"' ∨ c = '\\' then x
    else if c = '>' then ([], .redirect .plain :: close x)
    else if isBlank c then ([], close x)
    else letter c x

/-- The scanner goes from mode to mode by `Mode.next`, but for the two characters of `1>`. -/
theorem scan_cons {m : Mode} {c : Char} {cs : Text}
    (hone : m = .bare → c = '1' → cs.head? ≠ some '>') :
    scan m (c :: cs) = contribute m c (scan (m.next c) cs) := by
  cases m with
  | bareEscape => rfl
  | doubleEscape => rfl
  | single =>
      rw [scan, contribute, Mode.next]
      split_ifs <;> rfl
  | double =>
      rw [scan, contribute, Mode.next]
      split_ifs <;> simp_all
  | bare =>
      rw [scan]
      · rw [contribute, Mode.next]
        split_ifs <;> simp_all
      · intro ds hc hcs
        exact hone rfl hc (by simp [hcs])

/-- Puts tokens after what was scanned. -/
def followedBy (x : Text × List Token) (ts : List Token) : Text × List Token :=
  (x.1, x.2 ++ ts)

theorem close_followedBy (x : Text × List Token) (ts : List Token) :
    close (followedBy x ts) = close x ++ ts := by
  obtain ⟨w, us⟩ := x
  cases w <;> rfl

theorem contribute_followedBy (m : Mode) (c : Char) (x : Text × List Token) (ts : List Token) :
    contribute m c (followedBy x ts) = followedBy (contribute m c x) ts := by
  cases m with
  | bareEscape => rfl
  | doubleEscape => rfl
  | single =>
      rw [contribute, contribute]
      split_ifs <;> rfl
  | double =>
      rw [contribute, contribute]
      split_ifs <;> rfl
  | bare =>
      rw [contribute, contribute, close_followedBy]
      split_ifs <;> rfl

@[simp] theorem followedBy_nil (x : Text × List Token) : followedBy x [] = x := by
  rw [followedBy, List.append_nil]

/-! ## Reading on -/

/-- No bare `1` at the end of the first part meets a `>` at the head of the rest. -/
def Apart (m : Mode) (t rest : Text) : Prop :=
  ∀ front, t = front ++ ['1'] → m.after front = .bare → rest.head? ≠ some '>'

theorem Apart.tail {m : Mode} {c : Char} {cs rest : Text} (h : Apart m (c :: cs) rest) :
    Apart (m.next c) cs rest := by
  intro front hcs hfront
  exact h (c :: front) (by rw [hcs, List.cons_append]) hfront

theorem Apart.of_head?_ne {rest : Text} (h : rest.head? ≠ some '>') (m : Mode) (t : Text) :
    Apart m t rest :=
  fun _ _ _ => h

/-- What follows is scanned in the mode in which the first part ends. If it does not continue the
current word, its tokens come after those of the first part. -/
theorem scan_append : ∀ {m : Mode} {t rest : Text} {ts : List Token},
    scan (m.after t) rest = ([], ts) → Apart m t rest →
      scan m (t ++ rest) = followedBy (scan m t) ts
  | m, [], rest, ts, hrest, _ => by
      cases m <;> exact hrest
  | m, c :: cs, rest, ts, hrest, hapart => by
      by_cases hop : m = .bare ∧ c = '1' ∧ cs.head? = some '>'
      · obtain ⟨rfl, rfl, hhead⟩ := hop
        obtain ⟨ds, rfl⟩ := List.head?_eq_some_iff.mp hhead
        have ih : scan .bare (ds ++ rest) = followedBy (scan .bare ds) ts :=
          scan_append hrest hapart.tail.tail
        have hcut : ∀ es, scan .bare ('1' :: '>' :: es)
            = ([], .redirect .numbered :: close (scan .bare es)) := scan_operator .numbered
        rw [List.cons_append, List.cons_append, hcut, hcut, ih, close_followedBy]
        rfl
      · have ih : scan (m.next c) (cs ++ rest) = followedBy (scan (m.next c) cs) ts :=
          scan_append hrest hapart.tail
        have hone : m = .bare → c = '1' → cs.head? ≠ some '>' :=
          fun hm hc hhead => hop ⟨hm, hc, hhead⟩
        have hone' : m = .bare → c = '1' → (cs ++ rest).head? ≠ some '>' := by
          rintro rfl rfl
          cases cs with
          | nil => exact hapart [] rfl rfl
          | cons d ds => exact hone rfl rfl
        rw [List.cons_append, scan_cons hone', scan_cons hone, ih, contribute_followedBy]

/-- Where a line can be cut, what does not continue a word has its tokens after those before. -/
theorem tokenize_append {a rest : Text} {ts : List Token} (ha : Mode.bare.after a = .bare)
    (hrest : scan .bare rest = ([], ts)) (hapart : Apart .bare a rest) :
    tokenize (a ++ rest) = tokenize a ++ ts := by
  rw [tokenize, scan_append (by rw [ha, hrest]) hapart, close_followedBy]
  rfl

/-! ## Cutting at blanks and operators -/

/-- The text ends in a `1` that is outside quotes and after no backslash. -/
def EndsInOne (t : Text) : Prop :=
  ∃ front, t = front ++ ['1'] ∧ Mode.bare.after front = .bare

theorem tokenize_append_gap {a gap : Text} (ha : Mode.bare.after a = .bare) (hgap : IsGap gap)
    (hne : gap ≠ []) (b : Text) : tokenize (a ++ gap ++ b) = tokenize a ++ tokenize b := by
  obtain ⟨c, cs, rfl⟩ := List.exists_cons_of_ne_nil hne
  have hc : isBlank c = true := hgap c (List.mem_cons_self ..)
  have hcs : IsGap cs := fun d hd => hgap d (List.mem_cons_of_mem c hd)
  have hscan : scan .bare (c :: cs ++ b) = ([], tokenize b) := by
    rw [List.cons_append, scan_blank hc, tokenize_gap hcs]
  have hhead : (c :: cs ++ b).head? ≠ some '>' := by
    rintro ⟨⟩
    cases hc
  rw [List.append_assoc, tokenize_append ha hscan (.of_head?_ne hhead _ _)]

theorem tokenize_append_numbered {a : Text} (ha : Mode.bare.after a = .bare) (b : Text) :
    tokenize (a ++ Operator.numbered.text ++ b)
      = tokenize a ++ .redirect .numbered :: tokenize b := by
  have hhead : (Operator.numbered.text ++ b).head? ≠ some '>' := by
    simp [Operator.text]
  rw [List.append_assoc, tokenize_append ha (scan_operator ..) (.of_head?_ne hhead _ _)]

theorem tokenize_append_plain {a : Text} (ha : Mode.bare.after a = .bare) (b : Text) :
    tokenize (a ++ Operator.plain.text ++ b) = tokenize a ++ .redirect .plain :: tokenize b
      ↔ ¬ EndsInOne a := by
  constructor
  · rintro htokens ⟨front, rfl, hfront⟩
    have hline : front ++ ['1'] ++ Operator.plain.text ++ b
        = front ++ Operator.numbered.text ++ b := by
      simp [Operator.text]
    rw [hline, tokenize_append_numbered hfront] at htokens
    -- The tokens of `b` end both sides, and the operators before them differ.
    have hends : tokenize front ++ [.redirect .numbered] ++ tokenize b
        = tokenize (front ++ ['1']) ++ [.redirect .plain] ++ tokenize b := by
      simpa using htokens
    cases (List.append_inj' (List.append_cancel_right hends) rfl).2
  · intro hone
    have hapart : Apart .bare a (Operator.plain.text ++ b) :=
      fun front hfront hbare => (hone ⟨front, hfront, hbare⟩).elim
    rw [List.append_assoc, tokenize_append ha (scan_operator ..) hapart]

/-- A line can be cut at blanks and operators that stand outside quotes. Only a bare `1` before `>`
cannot be parted from it. -/
theorem tokenize_composes {a : Text} (ha : Mode.bare.after a = .bare) (b : Text) :
    (∀ gap, IsGap gap → gap ≠ [] → tokenize (a ++ gap ++ b) = tokenize a ++ tokenize b)
      ∧ tokenize (a ++ Operator.numbered.text ++ b)
        = tokenize a ++ .redirect .numbered :: tokenize b
      ∧ (tokenize (a ++ Operator.plain.text ++ b) = tokenize a ++ .redirect .plain :: tokenize b
        ↔ ¬ EndsInOne a) :=
  ⟨fun _ hgap hne => tokenize_append_gap ha hgap hne b, tokenize_append_numbered ha b,
    tokenize_append_plain ha b⟩

/-- A quoted `1` may stand right before the operator, and the quote on the right may stay open. -/
theorem tokenize_composes_quotedOne :
    Mode.bare.after ['\'', '1', '\''] = .bare ∧ IsGap ['\t', ' '] ∧ ['\t', ' '] ≠ []
      ∧ ¬ EndsInOne ['\'', '1', '\'']
      ∧ tokenize (['\'', '1', '\''] ++ ['\t', ' '] ++ ['\"', '>']) = [.word ['1'], .word ['>']]
      ∧ tokenize (['\'', '1', '\''] ++ Operator.numbered.text ++ ['\"', '>'])
        = [.word ['1'], .redirect .numbered, .word ['>']]
      ∧ tokenize (['\'', '1', '\''] ++ Operator.plain.text ++ ['\"', '>'])
        = [.word ['1'], .redirect .plain, .word ['>']] := by
  have hclosed : Mode.bare.after ['\'', '1', '\''] = .bare := by decide
  have hgap : IsGap ['\t', ' '] := by decide
  have hne : ['\t', ' '] ≠ [] := by decide
  have hone : ¬ EndsInOne ['\'', '1', '\''] := by
    rintro ⟨front, hfront, -⟩
    have hlast := congrArg List.getLast? hfront
    rw [List.getLast?_concat] at hlast
    cases hlast
  obtain ⟨hblank, hnumbered, hplain⟩ := tokenize_composes hclosed ['\"', '>']
  exact ⟨hclosed, hgap, hne, hone, hblank _ hgap hne, hnumbered, hplain.mpr hone⟩

/-! ## Closing what is open -/

/-- The line without a backslash that waits for a character, and with the open quote closed. -/
def completion (line : Text) : Text :=
  let m := Mode.bare.after line
  (if m.isPending then line.dropLast else line) ++ m.openQuote?.toList

/-- A last backslash that waits for a character adds nothing. -/
theorem scan_append_backslash {front : Text}
    (h : (Mode.bare.after front).heedsBackslash = true) :
    scan .bare (front ++ ['\\']) = scan .bare front := by
  have hscan : scan (Mode.bare.after front) ['\\'] = ([], []) := by
    rcases Mode.eq_of_heedsBackslash h with hm | hm <;> rw [hm] <;> rfl
  rw [scan_append hscan (.of_head?_ne (by decide) _ _), followedBy_nil]

/-- Closing the open quote adds nothing. -/
theorem close_openQuote {t : Text} (h : (Mode.bare.after t).isPending = false) :
    scan .bare (t ++ (Mode.bare.after t).openQuote?.toList) = scan .bare t
      ∧ Mode.bare.after (t ++ (Mode.bare.after t).openQuote?.toList) = .bare := by
  have hclose : ∀ m : Mode, m.isPending = false →
      scan m m.openQuote?.toList = ([], []) ∧ m.after m.openQuote?.toList = .bare
        ∧ m.openQuote?.toList.head? ≠ some '>' := by
    intro m hm
    cases m with
    | bare => decide
    | single => decide
    | double => decide
    | bareEscape => cases hm
    | doubleEscape => cases hm
  obtain ⟨hscan, hafter, hhead⟩ := hclose _ h
  refine ⟨?_, by rw [Mode.after_append, hafter]⟩
  rw [scan_append hscan (.of_head?_ne hhead _ _), followedBy_nil]

/-- A line has the letters and tokens of what is left of it without a waiting backslash, and its
completion closes the quote that is open there. -/
theorem completion_cases (line : Text) :
    ∃ front, (Mode.bare.after front).isPending = false
      ∧ completion line = front ++ (Mode.bare.after front).openQuote?.toList
      ∧ scan .bare line = scan .bare front := by
  by_cases hpending : (Mode.bare.after line).isPending = true
  · obtain ⟨front, rfl, hfront⟩ := (Mode.isPending_after .bare rfl line).mp hpending
    have hquote : (Mode.bare.after (front ++ ['\\'])).openQuote?
        = (Mode.bare.after front).openQuote? := by
      rw [Mode.after_concat, Mode.openQuote?_next_backslash hfront]
    refine ⟨front, Mode.not_isPending_of_heedsBackslash hfront, ?_, scan_append_backslash hfront⟩
    rw [completion, if_pos hpending, hquote, List.dropLast_concat]
  · refine ⟨line, (Bool.not_eq_true _).mp hpending, ?_, rfl⟩
    rw [completion, if_neg hpending]

/-- What waits at the end of a line can only be a last backslash. The completion of a line ends
where a line can be cut, and it has the same tokens. -/
theorem completion_closes (line : Text) :
    ((Mode.bare.after line).isPending = true
        ↔ ∃ front, line = front ++ ['\\'] ∧ (Mode.bare.after front).heedsBackslash = true)
      ∧ Mode.bare.after (completion line) = .bare
      ∧ tokenize (completion line) = tokenize line := by
  obtain ⟨front, hfront, hcompletion, hscan⟩ := completion_cases line
  obtain ⟨hclosed, hafter⟩ := close_openQuote hfront
  refine ⟨Mode.isPending_after .bare rfl line, ?_, ?_⟩
  · rw [hcompletion, hafter]
  · rw [tokenize, hcompletion, hclosed, ← hscan, tokenize]

example : completion ['a', ' ', '\"', '>', '\\'] = ['a', ' ', '\"', '>', '\"'] := by decide

end Token
end LineShell
