import LineShell.Proofs.Command.Parts
import LineShell.Proofs.Loop.Fold
import LineShell.Proofs.Shell.Status

/-!
# Exit numbers

`exit` accepts the decimal texts of 32-bit integers, with any sign and any leading zeros: it ends
the shell with the integer and writes nothing. For every other argument it ends the shell with one,
and a note says that the argument is no number. Arguments behind the first do not matter.

A shell that is invoked with such a line leaves the integer modulo 256 behind
(`Invocation.status_exit`).
-/

namespace LineShell

/-! ## Words written bare -/

namespace Token

theorem wordOf_bare {w : Text} (h : ∀ c ∈ w, IsBare c) : wordOf (w.pmap Piece.bare h) = w := by
  induction w with
  | nil => rfl
  | cons c w ih =>
      rw [List.pmap_cons, wordOf, List.flatMap_cons, ← wordOf, ih]
      rfl

theorem spellingOf_bare {w : Text} (h : ∀ c ∈ w, IsBare c) :
    spellingOf (w.pmap Piece.bare h) = w := by
  induction w with
  | nil => rfl
  | cons c w ih =>
      rw [List.pmap_cons, spellingOf, List.flatMap_cons, ← spellingOf, ih]
      rfl

/-- A word may be written bare before a blank and at the end of the line. -/
theorem Written.bare {gap w : Text} (hgap : IsGap gap) (hw : w ≠ []) (h : ∀ c ∈ w, IsBare c)
    {ts : List Token} {rest : Text} (hrest : Written ts rest)
    (hfollows : rest = [] ∧ ts = [] ∨ ∃ c ∈ rest.head?, isBlank c = true) :
    Written (.word w :: ts) (gap ++ w ++ rest) := by
  have hline := Written.word hgap (w.pmap Piece.bare h) (by rwa [wordOf_bare])
    (fun word hhead => ?_) (fun p _ _ hhead => ?_) hrest
  · rw [wordOf_bare, spellingOf_bare] at hline
    exact hline
  · rcases hfollows with ⟨-, rfl⟩ | hblank
    · cases hhead
    · exact hblank
  · rcases hfollows with ⟨rfl, -⟩ | ⟨c, hc, hblank⟩
    · cases hhead
    · cases hc.symm.trans hhead
      cases hblank

theorem isBare_of_isDigit {c : Char} (h : c.isDigit = true) : IsBare c := by
  obtain ⟨hlow, hhigh⟩ := Char.isDigit_iff_toNat.mp h
  have hblank : isBlank c = false := by
    simp only [Char.reduceToNat] at hlow hhigh
    simp [isBlank, inRanges, blankRanges]
    omega
  refine ⟨hblank, ?_, ?_, ?_, ?_⟩
  all_goals
    rintro rfl
    cases h

theorem isBare_of_mem_ofInt {n : Int} {c : Char} (h : c ∈ Text.ofInt n) : IsBare c := by
  rcases Text.eq_or_isDigit_of_mem_ofInt h with rfl | hdigit
  · decide
  · exact isBare_of_isDigit hdigit

end Token

theorem Text.ofInt_ne_nil (n : Int) : ofInt n ≠ [] := by
  cases n with
  | ofNat m => exact Nat.toDigits_ne_nil
  | negSucc m => exact List.cons_ne_nil _ _

/-- The line that `exit` and the decimal text of an integer make is a command of just these. -/
theorem Command.ofLine_exit (n : Int) :
    ofLine ("exit ".toList ++ Text.ofInt n)
      = .ok (some ⟨"exit".toList, [Text.ofInt n], none⟩) := by
  have hnil : Token.IsGap [] := by decide
  have hblank : Token.IsGap [' '] := by decide
  have harg : Token.Written [.word (Text.ofInt n)] (' ' :: Text.ofInt n) := by
    have hline := Token.Written.bare hblank (Text.ofInt_ne_nil n)
      (fun _ => Token.isBare_of_mem_ofInt) (.blanks hnil) (Or.inl ⟨rfl, rfl⟩)
    rw [List.append_nil] at hline
    exact hline
  have hname : "exit".toList.all fun c => decide (Token.IsBare c) := by decide
  have hline : Token.Written (tokensOf [.word "exit".toList, .word (Text.ofInt n)])
      ("exit ".toList ++ Text.ofInt n) :=
    Token.Written.bare hnil (by decide)
      (fun c hc => of_decide_eq_true (List.all_eq_true.mp hname c hc)) harg
      (Or.inr ⟨' ', rfl, by decide⟩)
  exact ofLine_of_written rfl rfl hline

/-! ## What `exit` accepts -/

theorem perform_exit_of_some {arg : Text} {n : Int} (h : exitNumber? arg = some n)
    (args : List Text) (ctx : Context) (o : Output) (s : Session) :
    s.perform o (Builtin.exit.act ctx (arg :: args)) = (.ok (.terminate n), s) := by
  simp only [Builtin.exit, h]
  rfl

theorem perform_exit_of_none {arg : Text} (h : exitNumber? arg = none) (args : List Text)
    (ctx : Context) (o : Output) (s : Session) :
    s.perform o (Builtin.exit.act ctx (arg :: args))
      = (.ok (.terminate 1), s.note
          (Diagnostic.about "exit".toList
            (Diagnostic.about arg "numeric argument required".toList))) := by
  simp only [Builtin.exit, h]
  rfl

/-! ## Invoked shells -/

namespace Invocation

/-- The invoked shell runs this line and nothing else. -/
structure RunsLine (inv : Invocation) (opts : Options) (line : Text) : Prop where
  options : Options.ofArgs inv.args = .ok opts
  command : opts.command = some line
  setting : (LogSetting.ofOptions (inv.vars.lookup "RUST_LOG".toList) opts).isBroken = false

variable {inv : Invocation} {opts : Options} {line : Text}

theorem status_of_runsLine (h : inv.RunsLine opts line) (programs : Programs) :
    (inv.run programs).status
      = exitByte ((inv.shell programs).executeLine line inv.session).1.code := by
  have hrun : inv.runOptions programs opts
      = (.code ((inv.shell programs).executeLine line inv.session).1.code,
          ((inv.shell programs).executeLine line inv.session).2) := by
    rw [runOptions, h.command]
    rfl
  simp only [run, h.options, h.setting, Bool.false_eq_true, if_false, hrun]

/-- A line that is an `exit` leaves the low byte of its number. -/
theorem status_exit {arg : Text} {args : List Text} {n : Int} (h : inv.RunsLine opts line)
    (hline : Command.ofLine line = .ok (some ⟨"exit".toList, arg :: args, none⟩))
    (hnumber : arg.DenotesInt32 n) (programs : Programs) :
    (inv.run programs).status = (n % 256).toNat := by
  have hexits : Shell.Exits inv.session line n :=
    ⟨_, .inherit, inv.session.files, hline, rfl, rfl, .number hnumber⟩
  rw [status_of_runsLine h, Shell.outcome_of_exits rfl hexits]
  rfl

end Invocation

namespace Builtin

/-- `exit` takes the decimal texts of 32-bit integers, and ends the shell with the integer; every
other argument is noted, which is all that the stream for diagnostics gains, and ends it with one. A
shell that runs the one line `exit` and such a text leaves the integer modulo 256. -/
theorem exit_by_number (arg : Text) (args : List Text) :
    (∀ n, arg.DenotesInt32 n → ∀ (ctx : Context) (o : Output) (s : Session),
        s.perform o (exit.act ctx (arg :: args)) = (.ok (.terminate n), s))
      ∧ ((¬ ∃ n, arg.DenotesInt32 n) → ∀ (ctx : Context) (o : Output) (s : Session),
        s.perform o (exit.act ctx (arg :: args))
          = (.ok (.terminate 1), (s.writeErr (Utf8.encode
              ("exit: ".toList ++ arg ++ ": numeric argument required\n".toList))).2))
      ∧ ((¬ ∃ n, arg.DenotesInt32 n) → ∀ (ctx : Context) (o : Output) (s : Session),
        s.err.TakesAll → s.ErrGrows (s.perform o (exit.act ctx (arg :: args))).2 []
          (Utf8.encode ("exit: ".toList ++ arg ++ ": numeric argument required\n".toList)))
      ∧ (∀ n, arg.DenotesInt32 n → ∀ (inv : Invocation) (opts : Options) (line : Text)
          (programs : Programs), inv.RunsLine opts line →
        Command.ofLine line = .ok (some ⟨"exit".toList, arg :: args, none⟩) →
        (inv.run programs).status = (n % 256).toNat)
      ∧ ∀ n : Int, -2 ^ 31 ≤ n → n ≤ 2 ^ 31 - 1 → (Text.ofInt n).DenotesInt32 n
        ∧ Command.ofLine ("exit ".toList ++ Text.ofInt n)
          = .ok (some ⟨"exit".toList, [Text.ofInt n], none⟩) := by
  have hnoted : (¬ ∃ n, arg.DenotesInt32 n) → ∀ (ctx : Context) (o : Output) (s : Session),
      s.perform o (exit.act ctx (arg :: args))
        = (.ok (.terminate 1), (s.writeErr (Utf8.encode
            ("exit: ".toList ++ arg ++ ": numeric argument required\n".toList))).2) := by
    intro hnone ctx o s
    have hnote : Diagnostic.about "exit".toList
          (Diagnostic.about arg "numeric argument required".toList) ++ ['\n']
        = "exit: ".toList ++ arg ++ ": numeric argument required\n".toList := by
      simp [Diagnostic.about]
    rw [perform_exit_of_none (exitNumber?_eq_none_iff.mpr hnone), Session.note, Line.ofText, hnote]
  refine ⟨fun n hnumber ctx o s => ?_, hnoted, fun hnone ctx o s htakes => ?_,
    fun n hnumber inv opts line programs hruns hline => ?_, fun n hlow hhigh => ?_⟩
  · exact perform_exit_of_some (exitNumber?_eq_some_iff.mpr hnumber) args ctx o s
  · rw [hnoted hnone]
    exact Session.errGrows_writeErr htakes _
  · exact Invocation.status_exit hruns hline hnumber programs
  · exact ⟨⟨Text.denotes_ofInt n, hlow, hhigh⟩, Command.ofLine_exit n⟩

/-- A shell whose options give it a line to run. -/
def runningExit : Invocation := { args := ["-c".toList, "exit -0001 2".toList] }

/-- A negative number with leading zeros, and the first number that is too large. -/
theorem exit_by_number_negative :
    Text.DenotesInt32 "-0001".toList (-1) ∧ (¬ ∃ n, Text.DenotesInt32 "2147483648".toList n)
      ∧ runningExit.RunsLine { command := some "exit -0001 2".toList } "exit -0001 2".toList
      ∧ Command.ofLine "exit -0001 2".toList
        = .ok (some ⟨"exit".toList, ["-0001".toList, "2".toList], none⟩)
      ∧ (runningExit.run fun _ _ => {}).status = 255
      ∧ ({} : Session).perform .inherit
          (exit.act ⟨{}, {}, .root, fun _ => false⟩ ["2147483648".toList])
        = (.ok (.terminate 1), (({} : Session).writeErr (Utf8.encode
            "exit: 2147483648: numeric argument required\n".toList)).2) := by
  have hnumber : Text.DenotesInt32 "-0001".toList (-1) := exitNumber?_eq_some_iff.mp (by decide)
  have hnone : ¬ ∃ n, Text.DenotesInt32 "2147483648".toList n :=
    exitNumber?_eq_none_iff.mp (by decide)
  have hruns : runningExit.RunsLine { command := some "exit -0001 2".toList }
      "exit -0001 2".toList :=
    { options := rfl, command := rfl, setting := rfl }
  have hline : Command.ofLine "exit -0001 2".toList
      = .ok (some ⟨"exit".toList, ["-0001".toList, "2".toList], none⟩) := rfl
  refine ⟨hnumber, hnone, hruns, hline, ?_, ?_⟩
  · exact (exit_by_number _ _).2.2.2.1 (-1) hnumber _ _ _ _ hruns hline
  · exact (exit_by_number _ []).2.1 hnone _ _ _

end Builtin
end LineShell
