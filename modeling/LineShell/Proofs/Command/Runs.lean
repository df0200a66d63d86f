import LineShell.Proofs.Command.Parts
import Mathlib.Algebra.Ring.Parity
import Mathlib.Data.List.DropRight
import Mathlib.Data.List.Infix
import Mathlib.Tactic.SplitIfs

/-!
# Runs of operators

An operator takes the token after it, even if that is an operator, which then takes none. So in a
run of operators every other one takes a token, the first included, and what stands right after a
run is taken if the run is of odd length and is a word of the command if it is of even length.

Each token is judged by the length of the run of operators right before it (`operatorRun`). The
token lists that are no command line are those that end in a run of odd length, and of all others
the words and the target can be told token by token (`ofTokens_by_runs`).
-/

namespace LineShell

namespace Token

def isOperator : Token → Bool
  | .word _ => false
  | .redirect _ => true

/-- The text of a word. -/
def word? : Token → Option Text
  | .word w => some w
  | .redirect _ => none

end Token

namespace Command

/-! ## Runs -/

/-- The length of the run of operators at the end of a token list, which is also the place of the
last of them in their run. -/
def operatorRun (ts : List Token) : Nat := (ts.rtakeWhile Token.isOperator).length

theorem even_operatorRun_nil : Even (operatorRun []) := Even.zero

theorem operatorRun_word (ts : List Token) (w : Text) : operatorRun (ts ++ [.word w]) = 0 := by
  rw [operatorRun, List.rtakeWhile_concat_neg _ _ _ Bool.false_ne_true]
  rfl

theorem even_operatorRun_word (ts : List Token) (w : Text) :
    Even (operatorRun (ts ++ [.word w])) := by
  rw [operatorRun_word]
  exact Even.zero

theorem operatorRun_redirect (ts : List Token) (op : Operator) :
    operatorRun (ts ++ [.redirect op]) = operatorRun ts + 1 := by
  rw [operatorRun, List.rtakeWhile_concat_pos _ _ _ rfl, List.length_append]
  rfl

/-- An operator and the token that it takes leave the run before the next token even. -/
theorem even_operatorRun_taken {before : List Token} (h : Even (operatorRun before))
    (op : Operator) (t : Token) : Even (operatorRun (before ++ [.redirect op] ++ [t])) := by
  cases t with
  | word w => exact even_operatorRun_word _ w
  | redirect op' =>
      rw [operatorRun_redirect, operatorRun_redirect]
      exact h.add even_two

/-! ## Tokens by what stands before them -/

/-- The tokens of a list that have a run of a given kind of length right before them, where `before`
stands before the list. -/
def tokensAfter (kind : Nat → Prop) [DecidablePred kind] (before ts : List Token) : List Token :=
  ((ts.inits.zip ts).filter fun x => kind (operatorRun (before ++ x.1))).map Prod.snd

/-- The words that no operator takes. -/
def freeWords (before ts : List Token) : List Text :=
  (tokensAfter Even before ts).filterMap Token.word?

/-- The texts of what stands right after an operator at an odd place of its run. -/
def takenTexts (before ts : List Token) : List Text :=
  (tokensAfter Odd before ts).map Token.text

theorem tokensAfter_cons (kind : Nat → Prop) [DecidablePred kind] (before : List Token)
    (t : Token) (ts : List Token) :
    tokensAfter kind before (t :: ts)
      = if kind (operatorRun before) then t :: tokensAfter kind (before ++ [t]) ts
        else tokensAfter kind (before ++ [t]) ts := by
  have htail : tokensAfter kind (before ++ [t]) ts
      = (((ts.inits.map (t :: ·)).zip ts).filter
          fun x => kind (operatorRun (before ++ x.1))).map Prod.snd := by
    simp [tokensAfter, List.zip_map_left, List.filter_map, Function.comp_def]
  rw [htail, tokensAfter, List.inits_cons, List.zip_cons_cons, List.filter_cons, List.append_nil]
  split_ifs <;> simp_all

/-! ### After a run of even length -/

section EvenRun
variable {before : List Token} (h : Even (operatorRun before))
include h

theorem freeWords_word (w : Text) (ts : List Token) :
    freeWords before (.word w :: ts) = w :: freeWords (before ++ [.word w]) ts := by
  rw [freeWords, tokensAfter_cons, if_pos h]
  rfl

theorem takenTexts_word (w : Text) (ts : List Token) :
    takenTexts before (.word w :: ts) = takenTexts (before ++ [.word w]) ts := by
  rw [takenTexts, tokensAfter_cons, if_neg (Nat.not_odd_iff_even.mpr h)]
  rfl

theorem odd_operatorRun_redirect (op : Operator) :
    Odd (operatorRun (before ++ [.redirect op])) := by
  rw [operatorRun_redirect]
  exact h.add_one

theorem freeWords_redirect (op : Operator) (t : Token) (ts : List Token) :
    freeWords before (.redirect op :: t :: ts)
      = freeWords (before ++ [.redirect op] ++ [t]) ts := by
  have hodd : ¬ Even (operatorRun (before ++ [.redirect op])) :=
    Nat.not_even_iff_odd.mpr (odd_operatorRun_redirect h op)
  rw [freeWords, tokensAfter_cons, if_pos h, tokensAfter_cons, if_neg hodd]
  rfl

theorem takenTexts_redirect (op : Operator) (t : Token) (ts : List Token) :
    takenTexts before (.redirect op :: t :: ts)
      = t.text :: takenTexts (before ++ [.redirect op] ++ [t]) ts := by
  rw [takenTexts, tokensAfter_cons, if_neg (Nat.not_odd_iff_even.mpr h), tokensAfter_cons,
    if_pos (odd_operatorRun_redirect h op)]
  rfl

end EvenRun

/-! ## Gathering by runs

The loop that reads a command comes to a token that is not taken only after a run of even length. -/

theorem gather_error_runs {before ts : List Token} (hbefore : Even (operatorRun before))
    {op : Operator} (h : gather ts = .error (.missingTarget op)) :
    Odd (operatorRun (before ++ ts)) ∧ ts.getLast? = some (.redirect op) := by
  fun_induction gather ts generalizing before with
  | case1 | case3 | case6 => cases h
  | case2 w ts e hts ih =>
      cases h
      obtain ⟨hodd, hlast⟩ := ih (even_operatorRun_word before w) hts
      rw [List.append_assoc] at hodd
      exact ⟨hodd, by rw [List.getLast?_cons, hlast]; rfl⟩
  | case4 op =>
      cases h
      exact ⟨odd_operatorRun_redirect hbefore op, rfl⟩
  | case5 op t ts e hts ih =>
      cases h
      obtain ⟨hodd, hlast⟩ := ih (even_operatorRun_taken hbefore op t) hts
      rw [List.append_assoc, List.append_assoc] at hodd
      exact ⟨hodd, by rw [List.getLast?_cons, List.getLast?_cons, hlast]; rfl⟩

theorem gather_ok_runs {before ts : List Token} (hbefore : Even (operatorRun before))
    {words : List Text} {target : Option Text} (h : gather ts = .ok (words, target)) :
    Even (operatorRun (before ++ ts)) ∧ words = freeWords before ts
      ∧ target = (takenTexts before ts).getLast? := by
  fun_induction gather ts generalizing before words target with
  | case2 | case4 | case5 => cases h
  | case1 =>
      cases h
      rw [List.append_nil]
      exact ⟨hbefore, rfl, rfl⟩
  | case3 w ts words target hts ih =>
      cases h
      obtain ⟨heven, hwords, htarget⟩ := ih (even_operatorRun_word before w) hts
      rw [List.append_assoc] at heven
      rw [freeWords_word hbefore, takenTexts_word hbefore, ← hwords]
      exact ⟨heven, rfl, htarget⟩
  | case6 op t ts words target hts ih =>
      cases h
      obtain ⟨heven, hwords, htarget⟩ := ih (even_operatorRun_taken hbefore op t) hts
      rw [List.append_assoc, List.append_assoc] at heven
      rw [freeWords_redirect hbefore, takenTexts_redirect hbefore, List.getLast?_cons, ← htarget]
      exact ⟨heven, hwords, by cases target <;> rfl⟩

theorem gather_error_iff_odd {ts : List Token} :
    (∃ e, gather ts = .error e) ↔ Odd (operatorRun ts) := by
  constructor
  · rintro ⟨⟨op⟩, h⟩
    exact (gather_error_runs even_operatorRun_nil h).1
  · intro hodd
    cases h : gather ts with
    | error e => exact ⟨e, rfl⟩
    | ok read =>
        have heven := (gather_ok_runs even_operatorRun_nil h).1
        exact (Nat.not_odd_iff_even.mpr heven hodd).elim

theorem gather_ok_iff_even {ts : List Token} {words : List Text} {target : Option Text} :
    gather ts = .ok (words, target) ↔ Even (operatorRun ts)
      ∧ freeWords [] ts = words ∧ (takenTexts [] ts).getLast? = target := by
  constructor
  · intro h
    obtain ⟨heven, hwords, htarget⟩ := gather_ok_runs even_operatorRun_nil h
    exact ⟨heven, hwords.symm, htarget.symm⟩
  · rintro ⟨heven, rfl, rfl⟩
    cases h : gather ts with
    | error e => exact (Nat.not_odd_iff_even.mpr heven (gather_error_iff_odd.mp ⟨e, h⟩)).elim
    | ok read =>
        obtain ⟨-, hwords, htarget⟩ := gather_ok_runs even_operatorRun_nil h
        rw [← hwords, ← htarget]

/-- There is a target as soon as there is an operator. -/
theorem target_eq_none_iff {ts : List Token} {words : List Text} {target : Option Text}
    (h : gather ts = .ok (words, target)) :
    target = none ↔ ∀ t ∈ ts, t.isOperator = false := by
  fun_induction gather ts generalizing words target with
  | case2 | case4 | case5 => cases h
  | case1 =>
      cases h
      exact iff_of_true rfl fun _ ht => (List.not_mem_nil ht).elim
  | case3 w ts words target hts ih =>
      cases h
      rw [ih hts, List.forall_mem_cons]
      exact (and_iff_right rfl).symm
  | case6 op t ts words target hts ih =>
      cases h
      refine iff_of_false (Option.some_ne_none _) fun hnone => ?_
      cases hnone (.redirect op) (List.mem_cons_self ..)

/-! ## Commands by runs -/

theorem ofTokens_error_iff {ts : List Token} {e : SyntaxError} :
    ofTokens ts = .error e ↔ gather ts = .error e := by
  unfold ofTokens
  split <;> simp_all

theorem ofTokens_none_iff {ts : List Token} :
    ofTokens ts = .ok none ↔ ∃ target, gather ts = .ok ([], target) := by
  unfold ofTokens
  split <;> simp_all

theorem ofTokens_some_iff {ts : List Token} {c : Command} :
    ofTokens ts = .ok (some c) ↔ gather ts = .ok (c.name :: c.args, c.target) := by
  obtain ⟨name, args, target⟩ := c
  unfold ofTokens
  split <;> simp_all [and_assoc]

/-- A token list is no command line exactly if it ends in a run of operators of odd length, and then
the last of them is reported. Otherwise the words after runs of even length are the command, nothing
if there are none; and its target, which it has as soon as there is an operator, is the last token
that stands right after an operator at an odd place of its run. -/
theorem ofTokens_by_runs (ts : List Token) :
    ((∃ e, ofTokens ts = .error e) ↔ Odd (operatorRun ts))
      ∧ (∀ op, ofTokens ts = .error (.missingTarget op) → ts.getLast? = some (.redirect op))
      ∧ (ofTokens ts = .ok none ↔ Even (operatorRun ts) ∧ freeWords [] ts = [])
      ∧ (∀ c, ofTokens ts = .ok (some c) ↔ Even (operatorRun ts)
        ∧ freeWords [] ts = c.name :: c.args ∧ (takenTexts [] ts).getLast? = c.target)
      ∧ ∀ c, ofTokens ts = .ok (some c) → (c.target = none ↔ ∀ t ∈ ts, t.isOperator = false) := by
  simp only [ofTokens_error_iff, ofTokens_none_iff, ofTokens_some_iff]
  refine ⟨gather_error_iff_odd, fun op h => ?_, ?_, fun c => gather_ok_iff_even,
    fun c h => target_eq_none_iff h⟩
  · exact (gather_error_runs even_operatorRun_nil h).2
  · constructor
    · rintro ⟨target, h⟩
      obtain ⟨heven, hwords, -⟩ := gather_ok_iff_even.mp h
      exact ⟨heven, hwords⟩
    · rintro ⟨heven, hwords⟩
      exact ⟨_, gather_ok_iff_even.mpr ⟨heven, hwords, rfl⟩⟩

/-- A run of three operators and a run of two, each with a word after it. -/
def threeAndTwo : List Token :=
  [.word ['a'], .redirect .plain, .redirect .numbered, .redirect .plain, .word ['f'],
    .redirect .plain, .redirect .numbered, .word ['b']]

/-- The words after the runs are a target and an argument, and the last target is an operator. -/
theorem ofTokens_by_runs_threeAndTwo :
    Even (operatorRun threeAndTwo) ∧ freeWords [] threeAndTwo = [['a'], ['b']]
      ∧ takenTexts [] threeAndTwo = [['1', '>'], ['f'], ['1', '>']]
      ∧ ofTokens threeAndTwo = .ok (some ⟨['a'], [['b']], some ['1', '>']⟩)
      ∧ (some ['1', '>'] = none ↔ ∀ t ∈ threeAndTwo, t.isOperator = false) := by
  have heven : Even (operatorRun threeAndTwo) := by decide
  have hwords : freeWords [] threeAndTwo = [['a'], ['b']] := by decide
  have htaken : takenTexts [] threeAndTwo = [['1', '>'], ['f'], ['1', '>']] := by decide
  obtain ⟨-, -, -, hsome, htarget⟩ := ofTokens_by_runs threeAndTwo
  have hcommand : ofTokens threeAndTwo = .ok (some ⟨['a'], [['b']], some ['1', '>']⟩) :=
    (hsome _).mpr ⟨heven, hwords, by rw [htaken]; rfl⟩
  exact ⟨heven, hwords, htaken, hcommand, htarget _ hcommand⟩

end Command
end LineShell
