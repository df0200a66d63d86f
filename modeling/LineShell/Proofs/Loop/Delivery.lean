import LineShell.Proofs.Loop.Fold
import LineShell.Proofs.Loop.ReadAhead
import LineShell.Proofs.Shell.Status
import Mathlib.Data.List.Forall2

/-!
# Who gets the standard input

The shell reads lines from its standard input ahead of the programs that it starts, and those read
from where the shell has left off. Round by round, the loop follows a stream that is read ahead
(`Round.Tracks`): what the shell has fetched and not yet handed out is the buffer, and what nobody
has read is the rest. At the end of the input both are empty (`left_of_readsOut`), so every byte was
delivered to someone.

What a program gets is told by its start alone: it `Takes` the front of what was unread when it was
started. Only a started program takes from the input besides the shell (`input_of_starts`,
`input_of_not_starts`), so the next line is read from where the program has left off. The lines that
the shell reads are the lines of what is delivered to it (`areLines_of_readsOut`).
-/

namespace LineShell

namespace Round

/-- How much is read of the input, and how much is gone after the line was executed. -/
def portion (r : Round) : Portion where
  drawn := r.before.input.length - r.remaining.length
  length := r.raw.length
  taken := r.remaining.length - r.after.input.length

/-- What was taken from the input while the line was executed. -/
def received (r : Round) : Bytes :=
  Input.bytes (r.remaining.take r.portion.taken)

/-- The source and the input are those of a stream that is read ahead. -/
structure Tracks (src : LineSource) (input : Input) (f : ReadAhead UInt8) : Prop where
  held : src.held = f.buffer
  input : input = .ofBytes f.rest

variable {r : Round} {f : ReadAhead UInt8}

theorem remaining_eq (h : Tracks r.src r.before.input f) :
    r.remaining = .ofBytes (f.rest.drop r.portion.drawn) := by
  have hsuffix : r.remaining <:+ r.before.input :=
    LineSource.input_fetch r.src.refill r.src.held r.before.input
  have hbytes := hsuffix
  rw [h.input] at hbytes
  refine (Input.eq_ofBytes_of_suffix hbytes).trans ?_
  rw [← h.input]
  rfl

theorem raw_append_held (h : Tracks r.src r.before.input f) :
    r.raw ++ r.held = f.filled r.portion := by
  have hbytes : r.raw ++ r.held ++ r.remaining.bytes = r.src.held ++ r.before.input.bytes :=
    LineSource.bytes_fetch r.src.refill r.src.held r.before.input
  rw [remaining_eq h, Input.bytes_ofBytes, h.held, h.input, Input.bytes_ofBytes] at hbytes
  exact List.append_cancel_right (hbytes.trans (f.filled_append r.portion).symm)

theorem raw_eq (h : Tracks r.src r.before.input f) : r.raw = f.line r.portion := by
  rw [ReadAhead.line, ← raw_append_held h]
  exact List.take_left.symm

theorem held_eq (h : Tracks r.src r.before.input f) :
    r.held = (f.after r.portion).buffer := by
  rw [ReadAhead.after, ← raw_append_held h]
  exact List.drop_left.symm

theorem received_eq (h : Tracks r.src r.before.input f) : r.received = f.given r.portion := by
  rw [received, remaining_eq h, Input.bytes_take_ofBytes]
  rfl

theorem tracks_after (h : Tracks r.src r.before.input f)
    (hinput : r.after.input <:+ r.remaining) :
    Tracks r.next r.after.input (f.after r.portion) where
  held := held_eq h
  input := by
    have hbytes := hinput
    rw [remaining_eq h] at hbytes
    refine (Input.eq_ofBytes_of_suffix hbytes).trans ?_
    rw [← remaining_eq h]
    rfl

end Round

namespace Shell

variable {sh : Shell}

/-! ## What takes from the input -/

theorem input_of_starts {s : Session} {line : Text} {e : Effect} (h : sh.Starts s line e) :
    (sh.executeLine line s).2.input = s.input.drop e.taken := by
  obtain ⟨c, path, o, files, hline, hlaunches, hstart⟩ := h
  rw [executeLine_of_course (.ended hline hlaunches hstart), Session.input_flush,
    Session.input_finish, Session.input_absorb,
    Session.input_eq (s.store_readied line c path files)]

/-- A line that starts no program leaves the input alone. -/
theorem input_of_not_starts {s : Session} {line : Text} (h : ∀ e, ¬ sh.Starts s line e) :
    (sh.executeLine line s).2.input = s.input := by
  have hcourse := sh.executeLine_course s line
  revert hcourse
  generalize (sh.executeLine line s).1 = o
  generalize (sh.executeLine line s).2 = s'
  intro hcourse
  cases hcourse with
  | rejected => simp [Session.scanned]
  | blank => simp [Session.scanned]
  | unknown => simp [Session.dispatched, Session.scanned]
  | unopened => simp [Session.dispatched, Session.scanned]
  | failed hline hinvokes hact =>
      rw [Session.input_flush, Session.input_report, Session.input_of_perform hact]
      rfl
  | acted hline hinvokes hact =>
      rw [Session.input_flush, Session.input_of_perform hact]
      rfl
  | unstarted =>
      rw [Session.input_flush, Session.input_report, Session.input_eq (s.store_readied ..)]
  | ended hline hlaunches hstart => exact absurd ⟨_, _, _, _, hline, hlaunches, hstart⟩ (h _)

/-! ## Runs to the end of the input -/

variable {src : LineSource} {s : Session} {rs : List Round} {f : ReadAhead UInt8}

theorem input_of_run {r : Round} {n : Int}
    (hrun : sh.executeLine r.text r.ready = (.proceed n, r.after)) :
    r.after.input <:+ r.remaining := by
  have hsuffix := sh.input_executeLine r.text r.ready
  rwa [hrun] at hsuffix

theorem input_of_end {r : Round} (hafter : r.after = r.ready.record .inputEnded) :
    r.after.input = r.remaining := by
  rw [hafter]
  rfl

theorem deliveries_of_readsOut (h : sh.ReadsOut src s rs) (hf : Round.Tracks src s.input f) :
    ReadAhead.deliveries (rs.map Round.portion) f = rs.map fun r => (r.raw, r.received) := by
  induction h generalizing f with
  | ended hraw hafter =>
      rw [List.map_singleton, List.map_singleton, ReadAhead.deliveries, ReadAhead.deliveries,
        Round.raw_eq hf, Round.received_eq hf]
  | next hraw hrun hrest ih =>
      rw [List.map_cons, List.map_cons, ReadAhead.deliveries, Round.raw_eq hf,
        Round.received_eq hf, ih (Round.tracks_after hf (input_of_run hrun))]

theorem filter_of_empty (h : sh.ReadsOut src s rs) (hheld : src.held = [])
    (hinput : s.input = []) : rs.filter (·.raw ≠ []) = [] := by
  have hempty : ∀ r : Round, r.src.held = [] → r.before.input = [] → r.raw = [] := by
    intro r hheld hinput
    have hbytes : r.raw ++ r.held ++ r.remaining.bytes = r.src.held ++ r.before.input.bytes :=
      LineSource.bytes_fetch r.src.refill r.src.held r.before.input
    rw [hheld, hinput] at hbytes
    exact (List.append_eq_nil_iff.mp (List.append_eq_nil_iff.mp hbytes).1).1
  cases h with
  | ended hraw hafter => exact List.filter_cons_of_neg (by simpa using hraw)
  | next hraw hrun hrest => exact absurd (hempty _ hheld hinput) hraw

section

variable {size : Nat} (hsize : 0 < size)
include hsize

theorem raw_cases {r : Round} (hrefill : r.src.refill = .block size)
    (hf : Round.Tracks r.src r.before.input f) :
    (∃ body, Line.newline ∉ body ∧ r.raw = body ++ [Line.newline])
      ∨ (Line.newline ∉ r.raw ∧ r.held = [] ∧ r.remaining = []) := by
  rcases LineSource.fetch_cases hsize r.src.held f.rest with hended | ⟨hline, hleft⟩
  · rw [← hrefill, ← hf.input] at hended
    exact Or.inl hended
  · rw [← hrefill, ← hf.input] at hline hleft
    exact Or.inr ⟨hline, congrArg Prod.fst hleft, congrArg Prod.snd hleft⟩

theorem left_of_readsOut (h : sh.ReadsOut src s rs) (hrefill : src.refill = .block size)
    (hf : Round.Tracks src s.input f) : (f.afterAll (rs.map Round.portion)).left = [] := by
  induction h generalizing f with
  | @ended r hraw hafter =>
      have hinput := input_of_end hafter
      have htracks := Round.tracks_after hf (hinput ▸ List.suffix_rfl)
      rcases raw_cases hsize hrefill hf with ⟨body, -, hline⟩ | ⟨-, hheld, hremaining⟩
      · -- what ends in a newline is not empty
        rw [hraw] at hline
        cases (List.append_eq_nil_iff.mp hline.symm).2
      · have hrest : (f.after r.portion).rest = [] := by
          have hbytes := congrArg Input.bytes htracks.input
          rw [hinput, hremaining, Input.bytes_ofBytes] at hbytes
          exact hbytes.symm
        show (f.after r.portion).buffer ++ (f.after r.portion).rest = []
        rw [← Round.held_eq hf, hheld, hrest, List.append_nil]
  | next hraw hrun hrest ih => exact ih hrefill (Round.tracks_after hf (input_of_run hrun))

theorem areLines_of_readsOut (h : sh.ReadsOut src s rs) (hrefill : src.refill = .block size)
    (hf : Round.Tracks src s.input f) :
    Line.AreLines ((rs.filter (·.raw ≠ [])).map Round.raw) := by
  induction h generalizing f with
  | ended hraw hafter =>
      rw [List.filter_cons_of_neg (by simpa using hraw)]
      exact .nil
  | @next r n rs hraw hrun hrest ih =>
      have htracks := Round.tracks_after hf (input_of_run hrun)
      rw [List.filter_cons_of_pos (by simpa using hraw), List.map_cons]
      rcases raw_cases hsize hrefill hf with ⟨body, hbody, hline⟩ | ⟨hline, hheld, hremaining⟩
      · rw [hline]
        exact .cons hbody (ih hrefill htracks)
      · -- a line without a newline is the last, as nothing is left behind it
        have hinput : r.after.input = [] := by
          have hsuffix := input_of_run hrun
          rw [hremaining] at hsuffix
          exact List.suffix_nil.mp hsuffix
        rw [filter_of_empty hrest hheld hinput]
        exact .last hraw hline

end

theorem flatten_raws (rs : List Round) :
    ((rs.filter (·.raw ≠ [])).map Round.raw).flatten = rs.flatMap Round.raw := by
  induction rs with
  | nil => rfl
  | cons r rs ih =>
      by_cases hraw : r.raw = []
      · rw [List.filter_cons_of_neg (by simpa using hraw), ih, List.flatMap_cons, hraw]
        rfl
      · rw [List.filter_cons_of_pos (by simpa using hraw), List.map_cons, List.flatten_cons, ih,
          List.flatMap_cons]

/-- The texts of the lines that were executed are those of the bytes that were read. -/
theorem texts_of_areLines (h : Line.AreLines ((rs.filter (·.raw ≠ [])).map Round.raw)) :
    (rs.filter (·.raw ≠ [])).map Round.text = Line.texts (rs.flatMap Round.raw) := by
  rw [Line.texts, ← flatten_raws, Line.split_flatten h, List.map_map]
  rfl

/-! ## Delivery -/

/-- The bytes that the program which is started in a round takes: they come from the front of what
nobody has read at its start. None are taken if no program is started. -/
def Takes (sh : Shell) (r : Round) (bs : Bytes) : Prop :=
  (∃ e, sh.Starts r.ready r.text e ∧ bs = Input.bytes (r.ready.input.take e.taken))
    ∨ (∀ e, ¬ sh.Starts r.ready r.text e) ∧ bs = []

/-- What a round delivers of the input: the positions of the bytes in the line that the shell reads,
and the positions of those that a program takes, from the position on that the input is at. -/
structure Gets (sh : Shell) (input : Bytes) (r : Round) (delivery : List Nat × List Nat) :
    Prop where
  line : delivery.1.map (input[·]?) = r.raw.map some
  program : ∃ bs, sh.Takes r bs ∧ delivery.2.map (input[·]?) = bs.map some
    ∧ delivery.2 = List.range' (input.length - r.ready.input.length) bs.length

/-- Every byte of the input is delivered once, and each reader gets its bytes in the order of the
input. -/
structure Delivers (sh : Shell) (input : Bytes) (rs : List Round)
    (deliveries : List (List Nat × List Nat)) : Prop where
  each : List.Forall₂ (sh.Gets input) rs deliveries
  once : (deliveries.flatMap fun d => d.1 ++ d.2).Perm (List.range input.length)
  shell : (deliveries.flatMap Prod.fst).Pairwise (· < ·)
  programs : (deliveries.flatMap Prod.snd).Pairwise (· < ·)
  executed : ∀ r ∈ rs, r.raw ≠ [] → ∃ n, sh.executeLine r.text r.ready = (.proceed n, r.after)
  alone : (∀ r ∈ rs, ∀ bs, sh.Takes r bs → bs = []) →
    (rs.filter (·.raw ≠ [])).map Round.text = Line.texts input

theorem round_of_mem (h : sh.ReadsOut src s rs) {r : Round} (hr : r ∈ rs) :
    (r.raw = [] ∧ r.after.input = r.remaining)
      ∨ ∃ n, sh.executeLine r.text r.ready = (.proceed n, r.after) := by
  induction h with
  | ended hraw hafter =>
      rw [List.mem_singleton.mp hr]
      exact Or.inl ⟨hraw, input_of_end hafter⟩
  | next hraw hrun hrest ih =>
      rcases List.mem_cons.mp hr with rfl | hr
      · exact Or.inr ⟨_, hrun⟩
      · exact ih hr

theorem received_of_input {r : Round} (h : r.after.input = r.remaining) : r.received = [] := by
  have htaken : r.portion.taken = 0 := by
    rw [Round.portion, h]
    exact Nat.sub_self _
  rw [Round.received, htaken]
  rfl

theorem received_of_drop {r : Round} {n : Nat} (h : r.after.input = r.remaining.drop n) :
    r.received = Input.bytes (r.remaining.take n) := by
  have htaken : r.portion.taken = min n r.remaining.length := by
    simp only [Round.portion, h, List.length_drop]
    omega
  rw [Round.received, htaken]
  exact congrArg Input.bytes List.take_eq_take_min.symm

/-- What the shell finds missing of its input is what the program has taken. -/
theorem takes_received (h : sh.ReadsOut src s rs) {r : Round} (hr : r ∈ rs) :
    sh.Takes r r.received := by
  rcases round_of_mem h hr with ⟨hraw, hinput⟩ | ⟨n, hrun⟩
  · have htext : r.text = [] := by
      rw [Round.text, hraw]
      rfl
    refine Or.inr ⟨?_, received_of_input hinput⟩
    rintro e ⟨c, path, o, files, hline, -⟩
    rw [htext] at hline
    cases hline
  · have hafter : r.after = (sh.executeLine r.text r.ready).2 := by rw [hrun]
    by_cases hstarts : ∃ e, sh.Starts r.ready r.text e
    · obtain ⟨e, he⟩ := hstarts
      exact Or.inl ⟨e, he, received_of_drop (hafter ▸ input_of_starts he)⟩
    · have hnone := not_exists.mp hstarts
      exact Or.inr ⟨hnone, received_of_input (hafter ▸ input_of_not_starts hnone)⟩

theorem map_getElem?_range (bs : Bytes) : (List.range bs.length).map (bs[·]?) = bs.map some := by
  refine List.ext_getElem? fun i => ?_
  by_cases hi : i < bs.length
  · simp [hi]
  · simp [hi]

/-- The positions of the bytes and the bytes are two views of one stream. -/
theorem map_positions (input : Bytes) :
    ReadAhead.map (input[·]?) ⟨[], List.range input.length⟩ = ReadAhead.map some ⟨[], input⟩ := by
  simp only [ReadAhead.map, map_getElem?_range, List.map_nil]

theorem left_positions {ns : List Portion} {input : Bytes}
    (h : (ReadAhead.afterAll ⟨[], input⟩ ns).left = []) :
    (ReadAhead.afterAll ⟨[], List.range input.length⟩ ns).left = [] := by
  have hviews := congrArg (fun f => (ReadAhead.afterAll f ns).left) (map_positions input)
  simp only [ReadAhead.afterAll_map, ReadAhead.left_map, h, List.map_nil, List.map_eq_nil_iff]
    at hviews
  exact hviews

/-- Consecutive positions up to the end, by how many there are. -/
theorem take_of_suffix_range {l : List Nat} {n : Nat} (h : l <:+ List.range n) (k : Nat) :
    l.take k = List.range' (n - l.length) (l.take k).length := by
  refine List.ext_getElem List.length_range'.symm fun i hi _ => ?_
  rw [List.getElem_take, h.getElem, List.getElem_range, List.getElem_range', List.length_range,
    Nat.one_mul]

/-- One round delivers bytes and positions alike. -/
theorem gets_of_tracks {input : Bytes} {r : Round} {g : ReadAhead Nat}
    (hf : Round.Tracks r.src r.before.input f)
    (hviews : ReadAhead.map (input[·]?) g = ReadAhead.map some f)
    (hsuffix : g.rest <:+ List.range input.length) (htakes : sh.Takes r r.received) :
    sh.Gets input r (g.line r.portion, g.given r.portion) where
  line := by
    rw [← ReadAhead.line_map, hviews, ReadAhead.line_map, Round.raw_eq hf]
  program := by
    have hgiven : (g.given r.portion).map (input[·]?) = r.received.map some := by
      rw [← ReadAhead.given_map, hviews, ReadAhead.given_map, Round.received_eq hf]
    have hlength : (g.given r.portion).length = r.received.length := by
      simpa using congrArg List.length hgiven
    have hunread : r.ready.input.length = (g.rest.drop r.portion.drawn).length := by
      have hrest : g.rest.length = f.rest.length := by
        simpa [ReadAhead.map] using congrArg (fun f => f.rest.length) hviews
      have hremaining : r.ready.input = .ofBytes (f.rest.drop r.portion.drawn) :=
        Round.remaining_eq hf
      rw [hremaining, Input.ofBytes, List.length_map, List.length_drop, List.length_drop, hrest]
    refine ⟨r.received, htakes, hgiven, ?_⟩
    rw [hunread, ← hlength]
    exact take_of_suffix_range ((List.drop_suffix _ _).trans hsuffix) _

theorem each_of_readsOut {input : Bytes} {g : ReadAhead Nat} (h : sh.ReadsOut src s rs)
    (hf : Round.Tracks src s.input f)
    (hviews : ReadAhead.map (input[·]?) g = ReadAhead.map some f)
    (hsuffix : g.rest <:+ List.range input.length) :
    List.Forall₂ (sh.Gets input) rs (ReadAhead.deliveries (rs.map Round.portion) g) := by
  have htakes : ∀ r ∈ rs, sh.Takes r r.received := fun r => takes_received h
  induction h generalizing f g with
  | ended hraw hafter =>
      exact .cons (gets_of_tracks hf hviews hsuffix (htakes _ (List.mem_cons_self ..))) .nil
  | @next r n rs hraw hrun hrest ih =>
      refine .cons (gets_of_tracks hf hviews hsuffix (htakes _ (List.mem_cons_self ..))) ?_
      refine ih (Round.tracks_after hf (input_of_run hrun)) ?_ ?_ fun r hr =>
        htakes r (List.mem_cons_of_mem _ hr)
      · rw [← ReadAhead.after_map, hviews, ReadAhead.after_map]
      · exact ((List.drop_suffix _ _).trans (List.drop_suffix _ _)).trans hsuffix

/-- The positions that rounds deal out of the input. -/
def dealt (input : Bytes) (rs : List Round) : List (List Nat × List Nat) :=
  ReadAhead.deliveries (rs.map Round.portion) ⟨[], List.range input.length⟩

theorem delivers_of_readsOut {size : Nat} (hsize : 0 < size) {input : Bytes}
    (h : sh.ReadsOut src s rs) (hrefill : src.refill = .block size) (hheld : src.held = [])
    (hinput : s.input = .ofBytes input) :
    sh.Delivers input rs (dealt input rs) := by
  have htracks : Round.Tracks src s.input ⟨[], input⟩ := ⟨hheld, hinput⟩
  have hleft := left_of_readsOut hsize h hrefill htracks
  refine
    { each := each_of_readsOut h htracks (map_positions input) List.suffix_rfl
      once := ?_, shell := ?_, programs := ?_, executed := ?_, alone := ?_ }
  · have hperm := ReadAhead.perm_deliveries (rs.map Round.portion) ⟨[], List.range input.length⟩
    rwa [left_positions hleft, List.append_nil] at hperm
  · have hsublist := ReadAhead.lines_sublist (rs.map Round.portion) ⟨[], List.range input.length⟩
    exact List.Pairwise.sublist hsublist List.pairwise_lt_range
  · have hsublist := ReadAhead.givens_sublist (rs.map Round.portion) ⟨[], List.range input.length⟩
    exact List.Pairwise.sublist hsublist List.pairwise_lt_range
  · intro r hr hraw
    exact (round_of_mem h hr).resolve_left fun hend => hraw hend.1
  · intro hnone
    have hdeliveries := deliveries_of_readsOut h htracks
    have hungiven : ∀ d ∈ ReadAhead.deliveries (rs.map Round.portion) ⟨[], input⟩, d.2 = [] := by
      intro d hd
      rw [hdeliveries] at hd
      obtain ⟨r, hr, rfl⟩ := List.mem_map.mp hd
      exact hnone r hr _ (takes_received h hr)
    have hlines := ReadAhead.lines_of_ungiven hungiven
    rw [hleft, List.append_nil, hdeliveries, List.flatMap_map] at hlines
    rw [texts_of_areLines (areLines_of_readsOut hsize h hrefill htracks)]
    exact congrArg Line.texts hlines

/-- A shell that comes to the end of its standard input, a file that stays as it is meanwhile, has
delivered every byte of it once, to a line that it read or to a program that it started, and to each
in the order of the input. That is so for every size of the blocks in which it reads, and for the
shell that is invoked. -/
theorem input_delivered_once :
    (∀ (sh : Shell) (size : Nat) (input : Bytes) (s : Session), 0 < size →
        s.input = .ofBytes input → (sh.loop { refill := .block size } s).2.AtEnd →
        sh.Delivers input (sh.rounds { refill := .block size } s)
          (dealt input (sh.rounds { refill := .block size } s)))
      ∧ ∀ (inv : Invocation) (opts : Options) (programs : Programs), inv.ReadsInput opts →
        (inv.run programs).journal.getLast? = some .inputEnded →
        (inv.shell programs).Delivers inv.input
          ((inv.shell programs).rounds .standardInput inv.session)
          (dealt inv.input ((inv.shell programs).rounds .standardInput inv.session)) := by
  refine ⟨fun sh size input s hsize hinput hend => ?_, fun inv opts programs h hend => ?_⟩
  · exact delivers_of_readsOut hsize (readsOut_rounds rfl hend) rfl rfl hinput
  · obtain ⟨c, s', hloop, -, hjournal⟩ := Invocation.run_of_readsInput h programs
    have hatEnd : ((inv.shell programs).loop .standardInput inv.session).2.AtEnd := by
      rw [hloop, Session.AtEnd, ← hjournal]
      exact hend
    have hinput : inv.session.input = .ofBytes inv.input := by
      simp only [Invocation.session, h.plain, Bool.false_eq_true, if_false]
    exact delivers_of_readsOut (Nat.succ_pos _) (readsOut_rounds rfl hatEnd) rfl rfl hinput

/-- A shell whose programs take one byte each. -/
def takingOne : Shell := { programs := fun _ _ => { taken := 1 } }

/-- A session with a program `/p` and the standard input `/p`, a newline and `ab`. -/
def sharing : Session :=
  { files := ⟨[(.ofText ['p'], .file ⟨.image 0, 0o755⟩)]⟩
    input := .ofBytes [47, 112, 10, 97, 98] }

/-- In blocks of three bytes, the program takes the `a` between two refills, and the shell goes on
with the `b`. An invoked shell gets all of a line without a newline. -/
theorem input_delivered_once_refilled :
    sharing.input = .ofBytes [47, 112, 10, 97, 98]
      ∧ (takingOne.loop { refill := .block 3 } sharing).2.AtEnd
      ∧ takingOne.Delivers [47, 112, 10, 97, 98] (takingOne.rounds { refill := .block 3 } sharing)
        [([0, 1, 2], [3]), ([4], []), ([], [])]
      ∧ ({ input := [112] } : Invocation).ReadsInput {}
      ∧ (Invocation.run { input := [112] } takingOne.programs).journal.getLast? = some .inputEnded
      ∧ Delivers (Invocation.shell { input := [112] } takingOne.programs) [112]
        (rounds (Invocation.shell { input := [112] } takingOne.programs) .standardInput
          (Invocation.session { input := [112] })) [([0], []), ([], [])] := by
  have hend : (takingOne.loop { refill := .block 3 } sharing).2.AtEnd := by
    unfold Session.AtEnd
    decide +kernel
  have hdealt : dealt [47, 112, 10, 97, 98] (takingOne.rounds { refill := .block 3 } sharing)
      = [([0, 1, 2], [3]), ([4], []), ([], [])] := by decide +kernel
  have hdelivers := input_delivered_once.1 takingOne 3 _ sharing (Nat.succ_pos _) rfl hend
  rw [hdealt] at hdelivers
  have hreads : ({ input := [112] } : Invocation).ReadsInput {} :=
    { options := rfl, command := rfl, plain := rfl, setting := rfl }
  have hend' : (Invocation.run { input := [112] } takingOne.programs).journal.getLast?
      = some .inputEnded := by decide +kernel
  have hdealt' : dealt [112] (rounds (Invocation.shell { input := [112] } takingOne.programs)
      .standardInput (Invocation.session { input := [112] })) = [([0], []), ([], [])] := by
    decide +kernel
  have hdelivers' := input_delivered_once.2 _ _ _ hreads hend'
  rw [hdealt'] at hdelivers'
  exact ⟨rfl, hend, hdelivers, hreads, hend', hdelivers'⟩

end Shell
end LineShell
