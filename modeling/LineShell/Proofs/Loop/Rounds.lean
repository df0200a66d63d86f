import LineShell.Loop
import LineShell.Proofs.Line.Source

/-!
# The rounds of the read loop

The loop takes one turn after the other (`loop_eq`), and here it is taken apart into its rounds
(`Shell.rounds`). A turn over lines that are not typed comes to the end of the input, or it executes
a line, which ends the shell or not (`turn_cases`); so such a loop always comes to a code
(`loop_untyped`). If it goes on to the end of the input, its rounds execute line after line: that is
`ReadsOut`, and what holds of such a run is proved by induction on it.
-/

namespace LineShell

/-- A turn of the loop: the source and the session before it, and the session after it. -/
structure Round where
  src : LineSource
  before : Session
  after : Session

namespace Round

/-- The bytes of the line that is read, none at the end of the input. -/
def raw (r : Round) : Bytes :=
  (LineSource.fetch r.src.refill r.src.held r.before.input).1

/-- What the source holds once the line was read. -/
def held (r : Round) : Bytes :=
  (LineSource.fetch r.src.refill r.src.held r.before.input).2.1

/-- What the reading of the line leaves of the input. -/
def remaining (r : Round) : Input :=
  (LineSource.fetch r.src.refill r.src.held r.before.input).2.2

def text (r : Round) : Text :=
  Utf8.decode (Line.content r.raw)

/-- The session in which the line is executed. -/
def ready (r : Round) : Session :=
  { r.before.invite r.src with input := r.remaining }

/-- The source after the line was read. -/
def next (r : Round) : LineSource :=
  { r.src with held := r.held }

end Round

/-- The last thing that the shell did was to come to the end of its input. -/
def Session.AtEnd (s : Session) : Prop :=
  s.journal.getLast? = some .inputEnded

namespace Shell

variable {sh : Shell} {src : LineSource} {s : Session} {r : Round}

/-! ## Turns -/

theorem loop_eq (sh : Shell) (src : LineSource) (s : Session) :
    sh.loop src s = match sh.turn src s with
      | (.over e, s') => (e, s')
      | (.again src', s') => sh.loop src' s' := by
  rw [loop]
  split <;> next hturn => simp only [hturn]

theorem turn_eq_answer (sh : Shell) (htyped : r.src.isTyped = false) :
    sh.turn r.src r.before
      = sh.answer r.next r.ready (LineSource.decodeLine false r.raw) := by
  have hturn : sh.turn r.src r.before
      = sh.answer r.next r.ready (LineSource.decodeLine r.src.isTyped r.raw) := rfl
  rw [hturn, htyped]

theorem turn_cases (htyped : r.src.isTyped = false)
    (hafter : (sh.turn r.src r.before).2 = r.after) :
    (r.raw = [] ∧ r.after = r.ready.record .inputEnded
        ∧ sh.turn r.src r.before = (.over (.code 0), r.after))
      ∨ (∃ c s', r.after = Session.record s' (.terminating c)
        ∧ sh.turn r.src r.before = (.over (.code c), r.after))
      ∨ ∃ n, r.raw ≠ [] ∧ sh.executeLine r.text r.ready = (.proceed n, r.after)
        ∧ sh.turn r.src r.before = (.again r.next, r.after) := by
  have hturn := turn_eq_answer sh htyped
  by_cases hraw : r.raw = []
  · rw [hraw] at hturn
    have hended : sh.answer r.next r.ready (LineSource.decodeLine false [])
      = (.over (.code 0), r.ready.record .inputEnded) := rfl
    rw [hturn, hended] at hafter ⊢
    exact Or.inl ⟨hraw, hafter.symm, by rw [← hafter]⟩
  · rw [LineSource.decodeLine, if_neg hraw, if_neg Bool.false_ne_true] at hturn
    have htext : Utf8.decode (Line.content r.raw) = r.text := rfl
    rw [htext, answer] at hturn
    cases hrun : sh.executeLine r.text r.ready with
    | mk outcome s' =>
        rw [hrun] at hturn
        rw [hturn] at hafter ⊢
        cases outcome with
        | terminate c => exact Or.inr (Or.inl ⟨c, s', hafter.symm, by rw [← hafter]⟩)
        | proceed n =>
            have hs' : s' = r.after := hafter
            rw [hs']
            exact Or.inr (Or.inr ⟨n, hraw, rfl, rfl⟩)

theorem loop_untyped (sh : Shell) (s : Session) (htyped : src.isTyped = false) :
    ∃ c, (sh.loop src s).1 = .code c := by
  induction hn : src.unread s.input using Nat.strongRecOn generalizing src s with
  | _ n ih =>
      rw [loop_eq]
      rcases turn_cases (r := ⟨src, s, (sh.turn src s).2⟩) htyped rfl with
        ⟨-, -, hturn⟩ | ⟨c, -, -, hturn⟩ | ⟨-, -, -, hturn⟩
      · exact ⟨0, by rw [hturn]⟩
      · exact ⟨c, by rw [hturn]⟩
      · rw [hturn]
        exact ih _ (hn ▸ unread_turn_lt hturn) _ htyped rfl

/-! ## Rounds -/

def rounds (sh : Shell) (src : LineSource) (s : Session) : List Round :=
  match _h : sh.turn src s with
  | (.over _, s') => [⟨src, s, s'⟩]
  | (.again src', s') => ⟨src, s, s'⟩ :: sh.rounds src' s'
termination_by src.unread s.input
decreasing_by exact unread_turn_lt _h

theorem rounds_eq (sh : Shell) (src : LineSource) (s : Session) :
    sh.rounds src s = match sh.turn src s with
      | (.over _, s') => [⟨src, s, s'⟩]
      | (.again src', s') => ⟨src, s, s'⟩ :: sh.rounds src' s' := by
  rw [rounds]
  split <;> next hturn => simp only [hturn]

/-- The rounds execute line after line, and the last one comes to the end of the input. -/
inductive ReadsOut (sh : Shell) : LineSource → Session → List Round → Prop
  | ended {r : Round} (hraw : r.raw = []) (hafter : r.after = r.ready.record .inputEnded) :
      ReadsOut sh r.src r.before [r]
  | next {r : Round} {n : Int} {rs : List Round} (hraw : r.raw ≠ [])
      (hrun : sh.executeLine r.text r.ready = (.proceed n, r.after))
      (hrest : ReadsOut sh r.next r.after rs) : ReadsOut sh r.src r.before (r :: rs)

theorem readsOut_rounds (htyped : src.isTyped = false) (hend : (sh.loop src s).2.AtEnd) :
    sh.ReadsOut src s (sh.rounds src s) := by
  induction hn : src.unread s.input using Nat.strongRecOn generalizing src s with
  | _ n ih =>
      rw [loop_eq] at hend
      rw [rounds_eq]
      rcases turn_cases (r := ⟨src, s, (sh.turn src s).2⟩) htyped rfl with
        ⟨hraw, hafter, hturn⟩ | ⟨c, s', hafter, hturn⟩ | ⟨c, hraw, hrun, hturn⟩
      · rw [hturn]
        exact .ended (r := ⟨src, s, _⟩) hraw hafter
      · -- a line that ends the shell is noted last, and not the end of the input
        have hlast : (s'.record (.terminating c)).journal.getLast? = some (.terminating c) :=
          List.getLast?_concat
        rw [hturn] at hend
        have hended : (s'.record (.terminating c)).AtEnd := hafter ▸ hend
        cases hlast.symm.trans hended
      · rw [hturn] at hend ⊢
        exact .next (r := ⟨src, s, _⟩) hraw hrun
          (ih _ (hn ▸ unread_turn_lt hturn) htyped hend rfl)

end Shell
end LineShell
