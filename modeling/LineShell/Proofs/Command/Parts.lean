import LineShell.Command
import LineShell.Proofs.Token.Written

/-!
# Writing a command as a line

The parts of a command line are words and redirects, a redirect together with its target. Reading
parts off their tokens gives the words in order and the last target (`gather_parts`): the places of
the redirects among the words, the spelling of their operators and all targets but the last do not
matter. With the quoting of words left to `Token.Written`, a command is read off every line that
writes such parts (`ofLine_of_written`).

Scanned words are not empty, and neither is the spelling of an operator, so a command that is read
off a line has no empty text in it (`hasNoEmpty_of_ofLine`).
-/

namespace LineShell
namespace Command

/-! ## Parts of a command line -/

/-- A part of a command line that is complete by itself. -/
inductive Part where
  | word (w : Text)
  | redirect (op : Operator) (target : Text)

namespace Part

def tokens : Part → List Token
  | .word w => [.word w]
  | .redirect op target => [.redirect op, .word target]

def word? : Part → Option Text
  | .word w => some w
  | .redirect _ _ => none

def target? : Part → Option Text
  | .word _ => none
  | .redirect _ target => some target

end Part

def tokensOf (parts : List Part) : List Token := parts.flatMap Part.tokens

def wordsOf (parts : List Part) : List Text := parts.filterMap Part.word?

def targetsOf (parts : List Part) : List Text := parts.filterMap Part.target?

/-- No text of a command is empty. -/
structure HasNoEmpty (c : Command) : Prop where
  name : c.name ≠ []
  args : ∀ a ∈ c.args, a ≠ []
  target : ∀ p ∈ c.target, p ≠ []

/-! ## Reading parts -/

theorem gather_parts (parts : List Part) :
    gather (tokensOf parts) = .ok (wordsOf parts, (targetsOf parts).getLast?) := by
  induction parts with
  | nil => rfl
  | cons part parts ih =>
      cases part with
      | word w =>
          show gather (.word w :: tokensOf parts) = _
          rw [gather, ih]
          rfl
      | redirect op target =>
          show gather (.redirect op :: .word target :: tokensOf parts) = _
          rw [gather, ih]
          show _ = Except.ok (wordsOf parts, (target :: targetsOf parts).getLast?)
          rw [List.getLast?_cons]
          rfl

theorem ofTokens_parts {c : Command} {parts : List Part}
    (hwords : wordsOf parts = c.name :: c.args) (htarget : (targetsOf parts).getLast? = c.target) :
    ofTokens (tokensOf parts) = .ok (some c) := by
  rw [ofTokens, gather_parts, hwords, htarget]

theorem ofLine_of_written {c : Command} {parts : List Part} {line : Text}
    (hwords : wordsOf parts = c.name :: c.args) (htarget : (targetsOf parts).getLast? = c.target)
    (hline : Token.Written (tokensOf parts) line) : ofLine line = .ok (some c) := by
  rw [ofLine, Token.tokenize_of_written hline, ofTokens_parts hwords htarget]

/-! ## A line for every command -/

/-- The words of a command, and then its redirect. -/
def parts (c : Command) : List Part :=
  .word c.name :: (c.args.map .word ++ c.target.toList.map (.redirect .plain))

theorem wordsOf_parts (c : Command) : wordsOf c.parts = c.name :: c.args := by
  have hargs : (c.args.map Part.word).filterMap Part.word? = c.args := by
    rw [List.filterMap_map]
    exact List.filterMap_some
  have htarget : (c.target.toList.map (Part.redirect .plain)).filterMap Part.word? = [] := by
    cases c.target <;> rfl
  have hname : (Part.word c.name).word? = some c.name := rfl
  rw [wordsOf, parts, List.filterMap_cons_some hname, List.filterMap_append, hargs, htarget,
    List.append_nil]

theorem targetsOf_parts (c : Command) : (targetsOf c.parts).getLast? = c.target := by
  have hargs : (c.args.map Part.word).filterMap Part.target? = [] := by
    rw [List.filterMap_map]
    exact List.filterMap_eq_nil_iff.mpr fun _ _ => rfl
  rw [targetsOf, parts, List.filterMap_cons_none rfl, List.filterMap_append, hargs,
    List.nil_append]
  cases c.target <;> rfl

theorem word_nil_not_mem_parts {c : Command} (h : c.HasNoEmpty) :
    .word [] ∉ tokensOf c.parts := by
  intro hmem
  obtain ⟨part, hpart, htoken⟩ := List.mem_flatMap.mp hmem
  rcases List.mem_cons.mp hpart with rfl | hpart
  · exact h.name (by simpa [Part.tokens] using htoken)
  · rcases List.mem_append.mp hpart with hpart | hpart
    · obtain ⟨a, ha, rfl⟩ := List.mem_map.mp hpart
      exact h.args a ha (by simpa [Part.tokens] using htoken)
    · obtain ⟨p, hp, rfl⟩ := List.mem_map.mp hpart
      exact h.target p (Option.mem_toList.mp hp) (by simpa [Part.tokens] using htoken)

/-! ## No text of a command is empty -/

theorem text_ne_nil {t : Token} (h : t ≠ .word []) : t.text ≠ [] := by
  cases t with
  | word w => exact fun hw => h (congrArg Token.word hw)
  | redirect op => cases op <;> exact List.cons_ne_nil _ _

/-- What is gathered stands among the tokens. -/
theorem mem_of_gather {ts : List Token} {words : List Text} {target : Option Text}
    (h : gather ts = .ok (words, target)) :
    (∀ w ∈ words, .word w ∈ ts) ∧ ∀ p ∈ target, ∃ t ∈ ts, t.text = p := by
  fun_induction gather ts generalizing words target with
  | case1 =>
      cases h
      exact ⟨fun w hw => (List.not_mem_nil hw).elim, fun p hp => by cases hp⟩
  | case2 | case4 | case5 => cases h
  | case3 w ts words target hts ih =>
      cases h
      obtain ⟨hwords, htarget⟩ := ih hts
      refine ⟨fun v hv => ?_, fun p hp => ?_⟩
      · rcases List.mem_cons.mp hv with rfl | hv
        · exact List.mem_cons_self ..
        · exact List.mem_cons_of_mem _ (hwords v hv)
      · obtain ⟨t, ht, htext⟩ := htarget p hp
        exact ⟨t, List.mem_cons_of_mem _ ht, htext⟩
  | case6 op t ts words target hts ih =>
      cases h
      obtain ⟨hwords, htarget⟩ := ih hts
      refine ⟨fun v hv => List.mem_cons_of_mem _ (List.mem_cons_of_mem _ (hwords v hv)), ?_⟩
      intro p hp
      cases target with
      | none =>
          cases hp
          exact ⟨t, List.mem_cons_of_mem _ (List.mem_cons_self ..), rfl⟩
      | some q =>
          cases hp
          obtain ⟨u, hu, htext⟩ := htarget q rfl
          exact ⟨u, List.mem_cons_of_mem _ (List.mem_cons_of_mem _ hu), htext⟩

theorem hasNoEmpty_of_ofTokens {ts : List Token} (hts : .word [] ∉ ts) {c : Command}
    (h : ofTokens ts = .ok (some c)) : c.HasNoEmpty := by
  have htoken : ∀ t ∈ ts, t.text ≠ [] := by
    intro t ht
    exact text_ne_nil fun hnil => hts (hnil ▸ ht)
  rw [ofTokens] at h
  split at h
  · cases h
  · cases h
  · next name args target hgather =>
      cases h
      obtain ⟨hwords, htarget⟩ := mem_of_gather hgather
      refine ⟨htoken _ (hwords name (List.mem_cons_self ..)), fun a ha => ?_, fun p hp => ?_⟩
      · exact htoken _ (hwords a (List.mem_cons_of_mem _ ha))
      · obtain ⟨t, ht, rfl⟩ := htarget p hp
        exact htoken t ht

theorem hasNoEmpty_of_ofLine {line : Text} {c : Command} (h : ofLine line = .ok (some c)) :
    c.HasNoEmpty :=
  hasNoEmpty_of_ofTokens (Token.word_nil_not_mem_tokenize line) h

/-! ## All targets of a token list -/

/-- The texts that redirects name, the operators among them included. -/
def targets : List Token → List Text
  | [] => []
  | .word _ :: ts => targets ts
  | [.redirect _] => []
  | .redirect _ :: t :: ts => t.text :: targets ts

theorem target_of_gather {ts : List Token} {words : List Text} {target : Option Text}
    (h : gather ts = .ok (words, target)) : target = (targets ts).getLast? := by
  fun_induction gather ts generalizing words target with
  | case1 =>
      cases h
      rfl
  | case2 | case4 | case5 => cases h
  | case3 w ts words target hts ih =>
      cases h
      exact ih hts
  | case6 op t ts words target hts ih =>
      cases h
      rw [targets, List.getLast?_cons, ← ih hts]

/-- The target of a command is the last of its line. -/
theorem target_of_ofLine {line : Text} {c : Command} (h : ofLine line = .ok (some c)) :
    c.target = (targets (Token.tokenize line)).getLast? := by
  rw [ofLine, ofTokens] at h
  split at h
  · cases h
  · cases h
  · next hgather =>
      cases h
      exact target_of_gather hgather

/-! ## What command lines can express -/

/-- A command is read off every line that writes its words and, anywhere among them, any redirects
of which the last has its target; and the commands that lines can express are those without an
empty text. -/
theorem ofLine_expresses :
    (∀ (c : Command) (parts : List Part) (line : Text),
        wordsOf parts = c.name :: c.args → (targetsOf parts).getLast? = c.target →
        Token.Written (tokensOf parts) line → ofLine line = .ok (some c))
      ∧ (∀ c : Command, c.HasNoEmpty → ∃ (parts : List Part) (line : Text),
          wordsOf parts = c.name :: c.args ∧ (targetsOf parts).getLast? = c.target
            ∧ Token.Written (tokensOf parts) line)
      ∧ (∀ line c, ofLine line = .ok (some c) → c.HasNoEmpty)
      ∧ ∀ c : Command, (∃ line, ofLine line = .ok (some c)) ↔ c.HasNoEmpty := by
  have hread : ∀ (c : Command) (parts : List Part) (line : Text),
      wordsOf parts = c.name :: c.args → (targetsOf parts).getLast? = c.target →
      Token.Written (tokensOf parts) line → ofLine line = .ok (some c) :=
    fun _ _ _ hwords htarget hline => ofLine_of_written hwords htarget hline
  have hwrite : ∀ c : Command, c.HasNoEmpty → ∃ (parts : List Part) (line : Text),
      wordsOf parts = c.name :: c.args ∧ (targetsOf parts).getLast? = c.target
        ∧ Token.Written (tokensOf parts) line := by
    intro c hc
    obtain ⟨line, hline, -⟩ := Token.exists_written (word_nil_not_mem_parts hc)
    exact ⟨c.parts, line, wordsOf_parts c, targetsOf_parts c, hline⟩
  refine ⟨hread, hwrite, fun _ _ => hasNoEmpty_of_ofLine, fun c => ⟨?_, ?_⟩⟩
  · rintro ⟨line, hline⟩
    exact hasNoEmpty_of_ofLine hline
  · intro hc
    obtain ⟨parts, line, hwords, htarget, hline⟩ := hwrite c hc
    exact ⟨line, hread c parts line hwords htarget hline⟩

/-- A redirect in front of the name, which a later one overrides, and a quoted operator as an
argument. -/
theorem ofLine_expresses_overridden :
    Token.Written
        (tokensOf [.redirect .numbered ['a'], .word ['e'], .word ['>'], .redirect .plain ['b']])
        ['1', '>', 'a', ' ', 'e', ' ', '\'', '>', '\'', '>', 'b']
      ∧ ofLine ['1', '>', 'a', ' ', 'e', ' ', '\'', '>', '\'', '>', 'b']
        = .ok (some ⟨['e'], [['>']], some ['b']⟩) := by
  have hnone : Token.IsGap [] := by decide
  have hblank : Token.IsGap [' '] := by decide
  have last : Token.Written [.word ['>'], .redirect .plain, .word ['b']]
      [' ', '\'', '>', '\'', '>', 'b'] :=
    .word hblank [.single ['>'] (by decide)] (by decide) (by simp) (by simp [Token.Piece.IsOne])
      (.redirect hnone .plain
        (.word hnone [.bare 'b' (by decide)] (by decide) (by simp) (by simp) (.blanks hnone)))
  have hline : Token.Written
      (tokensOf [.redirect .numbered ['a'], .word ['e'], .word ['>'], .redirect .plain ['b']])
      ['1', '>', 'a', ' ', 'e', ' ', '\'', '>', '\'', '>', 'b'] :=
    .redirect hnone .numbered
      (.word hnone [.bare 'a' (by decide)] (by decide) (fun _ _ => ⟨' ', rfl, by decide⟩) (by simp)
        (.word hblank [.bare 'e' (by decide)] (by decide) (fun _ _ => ⟨' ', rfl, by decide⟩)
          (by simp) last))
  exact ⟨hline, ofLine_expresses.1 ⟨['e'], [['>']], some ['b']⟩ _ _ rfl rfl hline⟩

end Command
end LineShell
