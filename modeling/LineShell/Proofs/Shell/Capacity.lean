import LineShell.Proofs.Shell.InStep

/-!
# A stream for regular output that fills up

A sink that takes a number of bytes over its life is compared with one that takes everything. Two
sessions are *cut* (`Session.CutAt`) if they show the same work and the stream of the first holds
the first bytes of what the stream of the second holds. Once the first is full it holds the same
whatever is written to the second (`Sink.CutAt.write_right`), so sessions stay cut although the
builtin of the first stops at the first line that does not fit.

A line then ends otherwise in the first session only if one of its writes failed there
(`cutLine`), and never ends the shell in one of them alone.
-/

namespace LineShell

/-! ## Sinks -/

/-- The sink takes the number of bytes over its life, and then fails every write. -/
def Sink.TakesUpTo (n : Nat) (k : Sink) : Prop :=
  ∀ calls held, ∃ e, k.room calls held = some (n - held, e)

/-- The first sink takes only so many bytes, the second takes all, and they were given the same. -/
structure Sink.CutAt (n : Nat) (k k' : Sink) : Prop where
  limited : k.TakesUpTo n
  unlimited : ∀ calls held, k'.room calls held = none
  held : k.held = k'.held.take n

namespace Sink

variable {n : Nat} {k k' : Sink}

theorem room_write (k : Sink) (bs : Bytes) : (k.write bs).2.room = k.room := by
  unfold write
  split
  · rfl
  · split <;> rfl

theorem unlimited_write (h : ∀ calls held, k.room calls held = none) (bs : Bytes) :
    ∀ calls held, (k.write bs).2.room calls held = none := by
  rw [room_write]
  exact h

theorem write_of_unlimited (h : ∀ calls held, k.room calls held = none) (bs : Bytes) :
    (k.write bs).1 = none ∧ (k.write bs).2.held = k.held ++ bs := by
  rw [write, h]
  exact ⟨rfl, rfl⟩

theorem held_write_of_takesUpTo (h : k.TakesUpTo n) (bs : Bytes) :
    (k.write bs).2.held = k.held ++ bs.take (n - k.held.length) := by
  obtain ⟨e, hroom⟩ := h k.calls k.held.length
  rw [write, hroom]
  by_cases hfits : bs.length ≤ n - k.held.length
  · simp only [if_pos hfits]
    rw [List.take_of_length_le hfits]
  · simp only [if_neg hfits]

/-- A write that fails fills the sink. -/
theorem lt_of_write_fault (h : k.TakesUpTo n) {bs : Bytes} (hfault : (k.write bs).1 ≠ none) :
    n - k.held.length < bs.length := by
  obtain ⟨e, hroom⟩ := h k.calls k.held.length
  refine Nat.lt_of_not_le fun hfits => hfault ?_
  rw [write, hroom]
  simp only [if_pos hfits]

theorem CutAt.write (h : CutAt n k k') (bs : Bytes) : CutAt n (k.write bs).2 (k'.write bs).2 where
  limited calls held := by
    rw [room_write]
    exact h.limited calls held
  unlimited := unlimited_write h.unlimited bs
  held := by
    have hlength : n - k.held.length = n - k'.held.length := by
      rw [h.held, List.length_take]
      omega
    rw [held_write_of_takesUpTo h.limited, (write_of_unlimited h.unlimited bs).2,
      List.take_append, hlength, h.held]

/-- What the second sink gets beyond the limit does not matter. -/
theorem CutAt.write_right (h : CutAt n k k') (hfull : n ≤ k'.held.length) (bs : Bytes) :
    CutAt n k (k'.write bs).2 where
  limited := h.limited
  unlimited := unlimited_write h.unlimited bs
  held := by
    rw [(write_of_unlimited h.unlimited bs).2, List.take_append_of_le_length hfull]
    exact h.held

theorem CutAt.full_of_write_fault (h : CutAt n k k') {bs : Bytes}
    (hfault : (k.write bs).1 ≠ none) : n ≤ (k'.write bs).2.held.length := by
  have hlt := lt_of_write_fault h.limited hfault
  rw [h.held, List.length_take] at hlt
  rw [(write_of_unlimited h.unlimited bs).2, List.length_append]
  omega

end Sink

namespace Session

/-! ## Cut sessions -/

structure CutAt (n : Nat) (s t : Session) : Prop where
  work : s.work = t.work
  heard : s.heard = t.heard
  out : ∃ k k', s.out = .sink k ∧ t.out = .sink k' ∧ k.CutAt n k'

variable {n : Nat} {s t : Session}

theorem CutAt.printed (h : CutAt n s t) : s.printed = t.printed.take n := by
  obtain ⟨k, k', hs, ht, hcut⟩ := h.out
  rw [Session.printed, Session.printed, hs, ht]
  exact hcut.held

theorem CutAt.congr {s' t' : Session} (h : CutAt n s t) (hwork : s'.work = t'.work)
    (hheard : s'.heard = t'.heard) (hs : s'.out = s.out) (ht : t'.out = t.out) :
    CutAt n s' t' := by
  refine ⟨hwork, hheard, ?_⟩
  rw [hs, ht]
  exact h.out

theorem syncOut_cutAt (h : CutAt n s t) : CutAt n s.syncOut.2 t.syncOut.2 := by
  obtain ⟨k, k', hs, ht, hcut⟩ := h.out
  refine ⟨s.work_syncOut.trans (h.work.trans t.work_syncOut.symm), ?_, ?_⟩
  · rw [heard_of_errSide s.errSide_syncOut, heard_of_errSide t.errSide_syncOut]
    exact h.heard
  · have hout : ∀ {u : Session} {j : Sink}, u.out = .sink j →
        u.syncOut.2.out = .sink { j with calls := j.calls + 1 } := by
      intro u j hu
      rw [syncOut, hu]
      rfl
    exact ⟨_, _, hout hs, hout ht, hcut.limited, hcut.unlimited, hcut.held⟩

theorem inStep_cutAt (n : Nat) : InStep (CutAt n) where
  store h := store_of_work h.work
  record h e := h.congr (work_record_congr h.work e) h.heard rfl rfl
  reportLeft {s t} h d := h.congr ((s.work_report d).trans h.work)
    ((s.heard_report d).trans h.heard) (s.out_report d) rfl
  reportRight {s t} h d := h.congr (h.work.trans (t.work_report d).symm)
    (h.heard.trans (t.heard_report d).symm) rfl (t.out_report d)
  syncOut := syncOut_cutAt
  files h files := h.congr (work_files_congr h.work files) h.heard rfl rfl
  conclude {s t} h a := h.congr (work_conclude_congr h.work a)
    ((s.heard_conclude a).trans (h.heard.trans (t.heard_conclude a).symm))
    (s.out_conclude a) (t.out_conclude a)
  absorb h o e := h.congr (work_absorb_congr h.work o e) (heard_absorb_congr h.heard o e)
    (by cases o <;> rfl) (by cases o <;> rfl)

/-! ## Writes -/

theorem writeOut_sink {k : Sink} (h : s.out = .sink k) (bs : Bytes) :
    s.writeOut bs = ((k.write bs).1, { s with out := .sink (k.write bs).2 }) := by
  rw [writeOut, h]

theorem writeOut_cutAt (h : CutAt n s t) (bs : Bytes) :
    (t.writeOut bs).1 = none ∧ CutAt n (s.writeOut bs).2 (t.writeOut bs).2
      ∧ ((s.writeOut bs).1 ≠ none → n ≤ (t.writeOut bs).2.printed.length) := by
  obtain ⟨k, k', hs, ht, hcut⟩ := h.out
  rw [writeOut_sink hs, writeOut_sink ht]
  exact ⟨(Sink.write_of_unlimited hcut.unlimited bs).1,
    ⟨h.work, h.heard, _, _, rfl, rfl, hcut.write bs⟩, hcut.full_of_write_fault⟩

theorem emitLines_right_cutAt (h : CutAt n s t) (hfull : n ≤ t.printed.length)
    (lines : List Text) : (t.emitLines .inherit lines).1 = none
      ∧ CutAt n s (t.emitLines .inherit lines).2 := by
  induction lines generalizing t with
  | nil => exact ⟨rfl, h⟩
  | cons line lines ih =>
      obtain ⟨k, k', hs, ht, hcut⟩ := h.out
      obtain ⟨hnone, hheld⟩ := Sink.write_of_unlimited hcut.unlimited (Line.ofText line)
      have hk' : t.printed = k'.held := by rw [printed, ht]
      rw [hk'] at hfull
      rw [emitLines_cons, emit, writeOut_sink ht]
      simp only [hnone]
      refine ih ⟨h.work, h.heard, _, _, hs, rfl, hcut.write_right hfull _⟩ ?_
      rw [printed]
      simp only [hheld, List.length_append]
      omega

/-- Lines that no longer fit are missing in the first session alone. -/
theorem emitLines_cutAt (h : CutAt n s t) (lines : List Text) :
    (t.emitLines .inherit lines).1 = none
      ∧ CutAt n (s.emitLines .inherit lines).2 (t.emitLines .inherit lines).2 := by
  induction lines generalizing s t with
  | nil => exact ⟨rfl, h⟩
  | cons line lines ih =>
      obtain ⟨hnone, hline, hfull⟩ := writeOut_cutAt h (Line.ofText line)
      rw [emitLines_cons, emitLines_cons, emit, emit]
      simp only [hnone]
      cases hfault : (s.writeOut (Line.ofText line)).1 with
      | none => exact ih hline
      | some fault =>
          -- the first session stops here with its sink full, the second writes the rest alone
          refine emitLines_right_cutAt hline (hfull ?_) lines
          rw [hfault]
          exact Option.some_ne_none fault

end Session

namespace Shell

variable {sh : Shell} {n : Nat} {s t : Session} {c : Command} {line : Text}

/-! ## Lines -/

/-- A write of the line's builtin to the stream for regular output fails. -/
def WriteFails (sh : Shell) (s : Session) (line : Text) : Prop :=
  ∃ c b files fault, Command.ofLine line = .ok (some c) ∧ sh.Invokes s c b .inherit files
    ∧ ((s.opened line c files).emitLines .inherit (sh.action s c b files).lines).1 = some fault

/-- How a line ends in the first of two cut sessions, against the second. -/
structure CutLine (sh : Shell) (s t : Session) (line : Text) : Prop where
  cut : sh.WriteFails s line → (sh.executeLine line s).1 = .proceed 1
    ∧ ∃ code, (sh.executeLine line t).1 = .proceed code
  whole : ¬ sh.WriteFails s line → (sh.executeLine line s).1 = (sh.executeLine line t).1
  terminates : ∀ code, (sh.executeLine line s).1 = .terminate code
    ↔ (sh.executeLine line t).1 = .terminate code
  starts : ∀ e, sh.Starts s line e ↔ sh.Starts t line e

/-- The builtin stops in the first session, and in the second it comes to its end. -/
theorem executeLine_of_fault (hstd : sh.builtins = .standard) (h : s.CutAt n t) {b : Builtin}
    {files : FileTree} {fault : IoError} (hline : Command.ofLine line = .ok (some c))
    (hb : sh.Invokes s c b .inherit files)
    (hfault : ((s.opened line c files).emitLines .inherit (sh.action s c b files).lines).1
      = some fault) :
    (sh.executeLine line s).1 = .proceed 1
      ∧ (∃ code, (sh.executeLine line t).1 = .proceed code)
      ∧ (sh.executeLine line s).2.CutAt n (sh.executeLine line t).2 := by
  have hin := Session.inStep_cutAt n
  have hstore := hin.store h
  have hopened := hin.opened h line c files
  obtain ⟨hnone, hlines⟩ := Session.emitLines_cutAt hopened (sh.action s c b files).lines
  -- what prints neither notes nor moves, so nothing but output is lost by stopping early
  have hprints : (sh.action s c b files).lines ≠ [] := by
    intro hempty
    rw [hempty] at hfault
    cases hfault
  obtain ⟨hnotes, hmove, code, hresult⟩ :=
    Builtin.prints_of_standard (hb.standard hstd) hprints
  have hstays : ∀ u : Session, u.conclude (sh.action s c b files) = u := by
    intro u
    have hnotes' : (sh.action s c b files).notes = [] := hnotes
    have hmove' : (sh.action s c b files).moveTo = none := hmove
    rw [Session.conclude, hnotes', hmove']
    rfl
  rw [executeLine_invokes hline hb, executeLine_invokes hline (hb.of_store hstore),
    ← action_of_store hstore, Session.perform_eq, Session.perform_eq, hfault, hnone, hstays, hstays]
  have hresult' : (sh.action s c b files).result = .ok (.proceed code) := hresult
  rw [hresult']
  exact ⟨rfl, ⟨code, rfl⟩, hin.flush (hin.reportLeft hlines _)⟩

theorem executeLine_cutAt (hstd : sh.builtins = .standard) (h : s.CutAt n t) (line : Text) :
    ((sh.WriteFails s line ∧ (sh.executeLine line s).1 = .proceed 1
          ∧ ∃ code, (sh.executeLine line t).1 = .proceed code)
        ∨ ¬ sh.WriteFails s line ∧ (sh.executeLine line s).1 = (sh.executeLine line t).1)
      ∧ (sh.executeLine line s).2.CutAt n (sh.executeLine line t).2 := by
  have hin := Session.inStep_cutAt n
  by_cases hfails : sh.WriteFails s line
  · obtain ⟨c, b, files, fault, hline, hb, hfault⟩ := id hfails
    obtain ⟨houtcome, houtcome', hcut⟩ := executeLine_of_fault hstd h hline hb hfault
    exact ⟨Or.inl ⟨hfails, houtcome, houtcome'⟩, hcut⟩
  by_cases hinvokes : sh.LineInvokes s line
  · obtain ⟨c, hline, b, o, files, hb⟩ := hinvokes
    have hopened := hin.opened h line c files
    have hlines : ((s.opened line c files).emitLines o (sh.action s c b files).lines).1
          = ((t.opened line c files).emitLines o (sh.action s c b files).lines).1
        ∧ ((s.opened line c files).emitLines o (sh.action s c b files).lines).2.CutAt n
          ((t.opened line c files).emitLines o (sh.action s c b files).lines).2 := by
      cases o with
      | file d => exact hin.emitLines_file hopened d _
      | inherit =>
          obtain ⟨hnone, hlines⟩ := Session.emitLines_cutAt hopened (sh.action s c b files).lines
          refine ⟨?_, hlines⟩
          rw [hnone]
          refine Option.eq_none_iff_forall_ne_some.mpr fun fault hfault => ?_
          exact hfails ⟨c, b, files, fault, hline, hb, hfault⟩
    obtain ⟨houtcome, hcut⟩ := executeLine_invokes_inStep hin h hline hb hlines.1 hlines.2
    exact ⟨Or.inr ⟨hfails, houtcome⟩, hcut⟩
  · obtain ⟨houtcome, hcut⟩ := executeLine_inStep hin h hinvokes
    exact ⟨Or.inr ⟨hfails, houtcome⟩, hcut⟩

theorem cutLine (hstd : sh.builtins = .standard) (h : s.CutAt n t) (line : Text) :
    sh.CutLine s t line := by
  have hstarts : ∀ e, sh.Starts s line e ↔ sh.Starts t line e := fun _ =>
    starts_iff_of_store (Session.store_of_work h.work)
  rcases (executeLine_cutAt hstd h line).1 with ⟨hfails, hs, code, ht⟩ | ⟨hfails, hsame⟩
  · refine ⟨fun _ => ⟨hs, code, ht⟩, fun hnot => absurd hfails hnot, fun code' => ?_, hstarts⟩
    rw [hs, ht]
    exact ⟨nofun, nofun⟩
  · refine ⟨fun hfails' => absurd hfails' hfails, fun _ => hsame, fun code => ?_, hstarts⟩
    rw [hsame]

/-! ## Runs -/

theorem run_cutAt (hstd : sh.builtins = .standard) (h : s.CutAt n t) (lines : List Text) :
    (sh.run s lines).CutAt n (sh.run t lines) :=
  run_related (R := Session.CutAt n) (fun line h => (executeLine_cutAt hstd h line).2) h lines

/-- Two sessions after the same lines, and what becomes of any next one. -/
structure CutRun (sh : Shell) (n : Nat) (s t : Session) : Prop where
  printed : s.printed = t.printed.take n
  work : s.work = t.work
  heard : s.heard = t.heard
  next : ∀ line, sh.CutLine s t line

/-- A stream for regular output that fills up only cuts the output short: after any lines it holds
the first bytes of what one without a limit holds, everything else that the shell and its programs
do is the same, and a line differs at most by failing where one of its own writes failed. -/
theorem filling_output_cuts (hstd : sh.builtins = .standard) (s : Session) {k k' : Sink}
    (hlimited : k.TakesUpTo n) (hunlimited : (Outlet.sink k').TakesAll) (hheld : k.held = [])
    (hheld' : k'.held = []) (lines : List Text) :
    sh.CutRun n (sh.run { s with out := .sink k } lines)
      (sh.run { s with out := .sink k' } lines) := by
  have hsinks : k.CutAt n k' := by
    refine ⟨hlimited, hunlimited _ rfl, ?_⟩
    rw [hheld, hheld']
    exact List.take_nil.symm
  have hstart : Session.CutAt n { s with out := .sink k } { s with out := .sink k' } :=
    ⟨rfl, rfl, k, k', rfl, rfl, hsinks⟩
  have hrun := run_cutAt hstd hstart lines
  exact ⟨hrun.printed, hrun.work, hrun.heard, fun line => cutLine hstd hrun line⟩

/-- The limit falls into the output of the second of two lines. -/
theorem filling_output_cuts_secondLine :
    ({} : Shell).builtins = .standard ∧ (Sink.bounded 4 (.system .noSpace)).TakesUpTo 4
      ∧ (Outlet.sink {}).TakesAll ∧ (Sink.bounded 4 (.system .noSpace)).held = []
      ∧ ({} : Sink).held = []
      ∧ CutRun {} 4 (run {} { out := .sink (.bounded 4 (.system .noSpace)) }
          ["echo ab".toList, "echo cd".toList])
        (run {} { out := .sink {} } ["echo ab".toList, "echo cd".toList])
      ∧ (run {} { out := .sink (.bounded 4 (.system .noSpace)) }
          ["echo ab".toList, "echo cd".toList]).printed = [97, 98, 10, 99] := by
  have hlimited : (Sink.bounded 4 (.system .noSpace)).TakesUpTo 4 := fun _ _ => ⟨_, rfl⟩
  have hunlimited : (Outlet.sink {}).TakesAll := by
    rintro f ⟨⟩ calls held
    rfl
  have hrun : CutRun {} 4 (run {} { out := .sink (.bounded 4 (.system .noSpace)) }
      ["echo ab".toList, "echo cd".toList])
      (run {} { out := .sink {} } ["echo ab".toList, "echo cd".toList]) :=
    filling_output_cuts rfl {} hlimited hunlimited rfl rfl _
  exact ⟨rfl, hlimited, hunlimited, rfl, rfl, hrun, hrun.printed.trans (by decide)⟩

end Shell
end LineShell
