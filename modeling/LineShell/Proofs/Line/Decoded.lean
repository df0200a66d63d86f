import LineShell.Proofs.Line.Source
import LineShell.Proofs.Text.Split
import LineShell.Proofs.Utf8.Lossy

/-!
# Lines of the decoded text

The lines of a text are the pieces between its newlines: each piece that has a newline after it
loses one carriage return at its end, and the last piece counts only if it is not empty. A source
decodes line by line what it reads. That is the same as decoding everything at once and then taking
the lines of the text (`texts_eq_lines`), for malformed bytes too: no part of them reaches over a
newline, and they give no newline and no carriage return of their own.

Whether it has all its bytes or is refilled, a source `Serves` some bytes; its readings are the
lines of their text, then the end for ever (`reads_decoded_lines`).
-/

namespace LineShell

/-! ## Lines of a text -/

namespace Text

/-- A text without a carriage return at its end. -/
def withoutReturn (t : Text) : Text :=
  if t.getLast? = some '\r' then t.dropLast else t

def lines (t : Text) : List Text :=
  (t.splitOn '\n').dropLast.map withoutReturn
    ++ (t.splitOn '\n').getLast?.toList.filter fun last => last ≠ []

theorem lines_of_not_mem {t : Text} (h : '\n' ∉ t) :
    lines t = [t].filter fun last => last ≠ [] := by
  rw [lines, ← split_eq_splitOn, split_of_not_mem h]
  rfl

theorem lines_append_newline {p : Text} (h : '\n' ∉ p) (q : Text) :
    lines (p ++ '\n' :: q) = withoutReturn p :: lines q := by
  have hq : q.splitOn '\n' ≠ [] := by
    rw [← split_eq_splitOn]
    exact split_ne_nil '\n' q
  have hpieces : (p ++ '\n' :: q).splitOn '\n' = p :: q.splitOn '\n' := by
    rw [splitOn_append, ← split_eq_splitOn, split_of_not_mem h]
    rfl
  rw [lines, hpieces, List.dropLast_cons_of_ne_nil hq, List.getLast?_cons_of_ne_nil hq]
  rfl

end Text

/-- What reading gives where the next line is, or where there is none. -/
def LineSource.Reading.ofLine? : Option Text → LineSource.Reading
  | some t => .line t
  | none => .ended

/-! ## Lines of bytes -/

namespace Line

theorem newline_not_mem_decode {bs : Bytes} (h : newline ∉ bs) : '\n' ∉ Utf8.decode bs := by
  intro hmem
  have hbytes : Utf8.encodeChar '\n' <:+: bs := Utf8.mem_decode hmem (by decide)
  exact h (hbytes.subset List.mem_cons_self)

theorem decode_newline (p q : Bytes) :
    Utf8.decode (p ++ newline :: q) = Utf8.decode p ++ '\n' :: Utf8.decode q :=
  Utf8.decode_around (c := '\n') (by decide) p q

theorem decode_content (body : Bytes) :
    Utf8.decode (content (body ++ [newline])) = Text.withoutReturn (Utf8.decode body) := by
  rw [content, if_pos (isEnded_append_newline body), List.dropLast_concat]
  by_cases hreturn : body.getLast? = some carriageReturn
  · obtain ⟨init, rfl⟩ := List.getLast?_eq_some_iff.mp hreturn
    have hdecode : Utf8.decode (init ++ [carriageReturn]) = Utf8.decode init ++ ['\r'] :=
      Utf8.decode_around (c := '\r') (by decide) init []
    simp [hdecode, Text.withoutReturn]
  · have hlast : (Utf8.decode body).getLast? ≠ some '\r' := by
      intro hlast
      obtain ⟨s, hs⟩ := List.getLast?_eq_some_iff.mp hlast
      obtain ⟨init, rfl⟩ := Utf8.suffix_of_decode_eq hs (by decide)
      exact hreturn List.getLast?_concat
    simp [hreturn, Text.withoutReturn, hlast]

/-- Induction over the lines of bytes: one that lacks its newline, and one before other bytes. -/
theorem induction_on {motive : Bytes → Prop} (bs : Bytes)
    (last : ∀ line, newline ∉ line → motive line)
    (line : ∀ body rest, newline ∉ body → motive rest → motive (body ++ newline :: rest)) :
    motive bs := by
  induction hn : bs.length using Nat.strongRecOn generalizing bs with
  | _ n ih =>
      rcases cut_cases bs with ⟨body, hbody, -, hbs⟩ | ⟨hbs, -⟩
      · have hlength := congrArg List.length hbs
        rw [List.length_append, List.length_cons] at hlength
        rw [hbs]
        exact line body _ hbody (ih _ (by omega) _ rfl)
      · exact last bs hbs

theorem texts_eq_lines (bs : Bytes) : texts bs = Text.lines (Utf8.decode bs) := by
  induction bs using induction_on with
  | last line hline =>
      by_cases hne : line = []
      · rw [hne]
        rfl
      have htext : Utf8.decode line ≠ [] := mt Utf8.decode_eq_nil hne
      rw [texts, split_of_not_mem hne hline, List.map_singleton, content,
        if_neg (not_isEnded hline), Text.lines_of_not_mem (newline_not_mem_decode hline)]
      exact (List.filter_eq_self.mpr fun t ht =>
        decide_eq_true (List.mem_singleton.mp ht ▸ htext)).symm
  | line body rest hbody ih =>
      rw [texts, split_append_newline hbody, List.map_cons, decode_content, decode_newline,
        Text.lines_append_newline (newline_not_mem_decode hbody), ← ih]
      rfl

theorem count_newline_decode (bs : Bytes) : (Utf8.decode bs).count '\n' = bs.count newline := by
  induction bs using induction_on with
  | last line hline =>
      rw [List.count_eq_zero_of_not_mem hline,
        List.count_eq_zero_of_not_mem (newline_not_mem_decode hline)]
  | line body rest hbody ih =>
      rw [decode_newline, List.count_append, List.count_append, List.count_cons_self,
        List.count_cons_self, ih, List.count_eq_zero_of_not_mem hbody,
        List.count_eq_zero_of_not_mem (newline_not_mem_decode hbody)]

theorem head_texts (bs : Bytes) :
    LineSource.decodeLine false (cut bs).1 = .ofLine? (texts bs).head? := by
  by_cases hbs : bs = []
  · rw [hbs]
    rfl
  · rw [LineSource.decodeLine, if_neg (cut_fst_ne_nil hbs), texts_eq_cons_cut hbs]
    rfl

theorem tail_texts (bs : Bytes) : (texts bs).tail = texts (cut bs).2 := by
  by_cases hbs : bs = []
  · rw [hbs]
    rfl
  · rw [texts_eq_cons_cut hbs, List.tail_cons]

end Line

/-! ## Reading -/

theorem range_map_getElem? {α : Type} (l : List α) (n : Nat) :
    (List.range (n + 1)).map (l[·]?) = l.head? :: (List.range n).map (l.tail[·]?) := by
  rw [List.range_succ_eq_map, List.map_cons, List.map_map, List.head?_eq_getElem?]
  simp only [Function.comp_def, Nat.succ_eq_add_one, List.getElem?_tail]

namespace LineSource

/-- The lines of the bytes are what the source has still to hand out. -/
inductive Serves : LineSource → Input → Bytes → Prop
  | given (bs : Bytes) (input : Input) : Serves (.ofBytes bs) input bs
  | refilled {size : Nat} (hsize : 0 < size) (held rest : Bytes) :
      Serves ⟨held, .block size, false⟩ (.ofBytes rest) (held ++ rest)

/-- Reads so many times. -/
def readings : Nat → LineSource → Input → List Reading × LineSource × Input
  | 0, src, input => ([], src, input)
  | n + 1, src, input =>
    let next := src.read input
    let later := readings n next.2.1 next.2.2
    (next.1 :: later.1, later.2)

theorem cut_of_fetch {size : Nat} (hsize : 0 < size) (held rest : Bytes) :
    ∃ rest', (fetch (.block size) held (.ofBytes rest)).2.2 = .ofBytes rest'
      ∧ Line.cut (held ++ rest)
        = ((fetch (.block size) held (.ofBytes rest)).1,
          (fetch (.block size) held (.ofBytes rest)).2.1 ++ rest') := by
  obtain ⟨rest', hinput⟩ :
      ∃ rest', (fetch (.block size) held (.ofBytes rest)).2.2 = .ofBytes rest' :=
    ⟨_, Input.eq_ofBytes_of_suffix (input_fetch (.block size) held (.ofBytes rest))⟩
  have hbytes := bytes_fetch (.block size) held (.ofBytes rest)
  rw [hinput, Input.bytes_ofBytes, Input.bytes_ofBytes] at hbytes
  refine ⟨rest', hinput, ?_⟩
  rcases fetch_cases hsize held rest with ⟨body, hbody, hline⟩ | ⟨hline, hleft⟩
  · rw [hline, List.append_assoc, List.append_assoc, List.singleton_append] at hbytes
    rw [← hbytes, Line.cut_append_newline hbody, hline]
  · rw [hleft] at hinput hbytes ⊢
    obtain rfl : rest' = [] := List.map_eq_nil_iff.mp hinput.symm
    rw [List.append_nil, List.append_nil] at hbytes
    rw [← hbytes, Line.cut_of_not_mem hline]
    rfl

theorem Serves.read {src : LineSource} {input : Input} {bs : Bytes} (h : src.Serves input bs) :
    (src.read input).1 = .ofLine? (Line.texts bs).head?
      ∧ (src.read input).2.1.Serves (src.read input).2.2 (Line.cut bs).2 := by
  cases h with
  | given =>
      rw [read_ofBytes, Line.head_texts]
      exact ⟨rfl, .given _ _⟩
  | refilled hsize held rest =>
      obtain ⟨rest', hinput, hcut⟩ := cut_of_fetch hsize held rest
      rw [← Line.head_texts, hcut]
      refine ⟨rfl, ?_⟩
      simp only [LineSource.read, hinput]
      exact .refilled hsize _ _

theorem readings_of_serves {src : LineSource} {input : Input} {bs : Bytes}
    (h : src.Serves input bs) (n : Nat) :
    (src.readings n input).1 = ((List.range n).map ((Line.texts bs)[·]?)).map .ofLine? := by
  induction n generalizing src input bs with
  | zero => rfl
  | succ n ih =>
      obtain ⟨hline, hsource⟩ := h.read
      have hlater := ih hsource
      rw [← Line.tail_texts] at hlater
      rw [readings, range_map_getElem?, List.map_cons, ← hline, ← hlater]

end LineSource

namespace Dialogue

/-- Asks for a line with each of some prompts. -/
def asks : List Text → Dialogue → List (Option Text) × Dialogue
  | [], d => ([], d)
  | prompt :: prompts, d =>
    let next := d.ask prompt
    let later := asks prompts next.2
    (next.1 :: later.1, later.2)

theorem ask_of_serves {d : Dialogue} {bs : Bytes} (h : d.source.Serves [] bs) (prompt : Text) :
    (d.ask prompt).1 = (Line.texts bs).head?
      ∧ (d.ask prompt).2.source.Serves [] (Line.cut bs).2
      ∧ (d.ask prompt).2.shown = d.shown ++ prompt := by
  have hread := h.read
  have hinput : (d.source.read []).2.2 = [] :=
    List.suffix_nil.mp (LineSource.input_fetch d.source.refill d.source.held [])
  rw [hinput] at hread
  refine ⟨?_, hread.2, rfl⟩
  rw [ask, hread.1]
  cases (Line.texts bs).head? with
  | none => rfl
  | some line => rfl

theorem asks_of_serves {d : Dialogue} {bs : Bytes} (h : d.source.Serves [] bs)
    (prompts : List Text) :
    (d.asks prompts).1 = (List.range prompts.length).map ((Line.texts bs)[·]?)
      ∧ (d.asks prompts).2.shown = d.shown ++ prompts.flatten := by
  induction prompts generalizing d bs with
  | nil => exact ⟨rfl, (List.append_nil d.shown).symm⟩
  | cons prompt prompts ih =>
      obtain ⟨hline, hsource, hshown⟩ := ask_of_serves h prompt
      obtain ⟨hlater, hprompts⟩ := ih hsource
      rw [← Line.tail_texts] at hlater
      rw [hshown, List.append_assoc, ← List.flatten_cons] at hprompts
      refine ⟨?_, hprompts⟩
      rw [asks, List.length_cons, range_map_getElem?, ← hline, ← hlater]

end Dialogue

/-- Whatever the bytes, they have one text, and what is read is the lines of this text and then the
end for ever; each prompt is shown once. The text is that of what stands before a newline, the
newline, and the text of what stands after it. -/
theorem LineSource.reads_decoded_lines (bs : Bytes) :
    ∃ text, (∀ t, Utf8.Lossy bs t ↔ t = text)
      ∧ (∀ (d : Dialogue) (prompts : List Text), d.source.Serves [] bs →
          (d.asks prompts).1 = (List.range prompts.length).map ((Text.lines text)[·]?)
          ∧ (d.asks prompts).2.shown = d.shown ++ prompts.flatten)
      ∧ (∀ (src : LineSource) (input : Input) (n : Nat), src.Serves input bs →
          (src.readings n input).1
            = ((List.range n).map ((Text.lines text)[·]?)).map .ofLine?)
      ∧ (∀ p q, p ++ Line.newline :: q = bs →
          ∃ s u, Utf8.Lossy p s ∧ Utf8.Lossy q u ∧ text = s ++ '\n' :: u)
      ∧ text.count '\n' = bs.count Line.newline
      ∧ ∀ t, Utf8.encode t = bs → text = t := by
  refine ⟨Utf8.decode bs, fun t => Utf8.lossy_iff, ?_, ?_, ?_, Line.count_newline_decode bs, ?_⟩
  · intro d prompts h
    rw [← Line.texts_eq_lines]
    exact Dialogue.asks_of_serves h prompts
  · intro src input n h
    rw [← Line.texts_eq_lines]
    exact readings_of_serves h n
  · rintro p q rfl
    exact ⟨_, _, Utf8.lossy_decode p, Utf8.lossy_decode q, Line.decode_newline p q⟩
  · rintro t rfl
    exact Utf8.decode_encode t

/-- The first line ends inside a character, the second before a carriage return and a newline, and
the last in a carriage return without a newline. -/
theorem LineSource.reads_decoded_lines_truncated :
    (ofBytes [0x61, 0xE2, 0x82, 10, 0x62, 13, 10, 0x63, 13]).Serves []
        [0x61, 0xE2, 0x82, 10, 0x62, 13, 10, 0x63, 13]
      ∧ ((Dialogue.mk (ofBytes [0x61, 0xE2, 0x82, 10, 0x62, 13, 10, 0x63, 13]) []).asks
          ["> ".toList, "> ".toList, "> ".toList, "> ".toList, "> ".toList]).1
        = [some ['a', '\uFFFD'], some ['b'], some ['c', '\r'], none, none] := by
  have hserves := Serves.given [0x61, 0xE2, 0x82, 10, 0x62, 13, 10, 0x63, 13] []
  obtain ⟨text, htext, hasks, -⟩ :=
    reads_decoded_lines [0x61, 0xE2, 0x82, 10, 0x62, 13, 10, 0x63, 13]
  have hdecode : Utf8.decode [0x61, 0xE2, 0x82, 10, 0x62, 13, 10, 0x63, 13] = text :=
    (htext _).mp (Utf8.lossy_decode _)
  refine ⟨hserves, ?_⟩
  rw [(hasks _ _ hserves).1, ← hdecode]
  decide

end LineShell
