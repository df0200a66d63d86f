import LineShell.Line

/-!
# The lines of an input

`AreLines lines` says when a list of byte strings is how an input falls into lines: each has a
newline at its end and none before, and only the last may lack it, in which case it is not empty.
Every input falls into lines in exactly one way (`areLines_split`, `split_flatten`), which is
what cutting off one line after the other gives (`split_eq_cons_cut`).
-/

namespace LineShell.Line

/-! ## Falling into lines -/

inductive AreLines : List Bytes → Prop
  | nil : AreLines []
  | last {line : Bytes} (hne : line ≠ []) (hline : newline ∉ line) : AreLines [line]
  | cons {body : Bytes} {lines : List Bytes} (hbody : newline ∉ body) (hlines : AreLines lines) :
      AreLines ((body ++ [newline]) :: lines)

/-- The lines of an input, their newlines included. -/
def split : Bytes → List Bytes
  | [] => []
  | b :: bs =>
    if b = newline then [b] :: split bs
    else match split bs with
      | [] => [[b]]
      | line :: lines => (b :: line) :: lines

theorem split_newline (bs : Bytes) : split (newline :: bs) = [newline] :: split bs := by
  rw [split, if_pos rfl]

theorem split_append_newline {body : Bytes} (h : newline ∉ body) (bs : Bytes) :
    split (body ++ newline :: bs) = (body ++ [newline]) :: split bs := by
  induction body with
  | nil => exact split_newline bs
  | cons b body ih =>
      obtain ⟨hb, hbody⟩ := not_or.mp (mt List.mem_cons.mpr h)
      rw [List.cons_append, split, if_neg (Ne.symm hb), ih hbody]
      rfl

theorem split_of_not_mem {line : Bytes} (hne : line ≠ []) (h : newline ∉ line) :
    split line = [line] := by
  induction line with
  | nil => exact absurd rfl hne
  | cons b line ih =>
      obtain ⟨hb, hline⟩ := not_or.mp (mt List.mem_cons.mpr h)
      rw [split, if_neg (Ne.symm hb)]
      cases line with
      | nil => rfl
      | cons c line => rw [ih (List.cons_ne_nil c line) hline]

/-- An input has no other lines than these. -/
theorem split_flatten {lines : List Bytes} (h : AreLines lines) : split lines.flatten = lines := by
  induction h with
  | nil => rfl
  | last hne hline =>
      rw [List.flatten_cons, List.flatten_nil, List.append_nil]
      exact split_of_not_mem hne hline
  | cons hbody hlines ih =>
      rw [List.flatten_cons, List.append_assoc, List.singleton_append,
        split_append_newline hbody, ih]

/-! ## Cutting off lines -/

theorem isEnded_append_newline (body : Bytes) : isEnded (body ++ [newline]) = true := by
  rw [isEnded, List.getLast?_concat]
  rfl

theorem not_isEnded {line : Bytes} (h : newline ∉ line) : ¬ isEnded line = true := by
  rw [isEnded, beq_iff_eq]
  exact fun hlast => h (List.mem_of_getLast? hlast)

theorem cut_cases (bs : Bytes) :
    (∃ body, newline ∉ body ∧ (cut bs).1 = body ++ [newline] ∧ bs = body ++ newline :: (cut bs).2)
      ∨ (newline ∉ bs ∧ cut bs = (bs, [])) := by
  induction bs with
  | nil => exact Or.inr ⟨List.not_mem_nil, rfl⟩
  | cons b bs ih =>
      by_cases hb : b = newline
      · subst hb
        refine Or.inl ⟨[], List.not_mem_nil, ?_⟩
        rw [cut, if_pos rfl]
        exact ⟨rfl, rfl⟩
      · rw [cut, if_neg hb]
        rcases ih with ⟨body, hbody, hline, hbs⟩ | ⟨hbs, hcut⟩
        · refine Or.inl ⟨b :: body, ?_, congrArg (b :: ·) hline, congrArg (b :: ·) hbs⟩
          exact fun hmem => (List.mem_cons.mp hmem).elim (Ne.symm hb) hbody
        · refine Or.inr ⟨fun hmem => (List.mem_cons.mp hmem).elim (Ne.symm hb) hbs, ?_⟩
          rw [hcut]

theorem cut_append_newline {body : Bytes} (h : newline ∉ body) (bs : Bytes) :
    cut (body ++ newline :: bs) = (body ++ [newline], bs) := by
  induction body with
  | nil => rfl
  | cons b body ih =>
      obtain ⟨hb, hbody⟩ := not_or.mp (mt List.mem_cons.mpr h)
      rw [List.cons_append, cut, if_neg (Ne.symm hb), ih hbody]
      rfl

theorem cut_of_not_mem {bs : Bytes} (h : newline ∉ bs) : cut bs = (bs, []) := by
  rcases cut_cases bs with ⟨body, -, -, hbs⟩ | ⟨-, hcut⟩
  · exact absurd (hbs ▸ List.mem_append_right body List.mem_cons_self) h
  · exact hcut

theorem split_eq_cons_cut {bs : Bytes} (h : bs ≠ []) :
    split bs = (cut bs).1 :: split (cut bs).2 := by
  rcases cut_cases bs with ⟨body, hbody, hline, hbs⟩ | ⟨hbs, hcut⟩
  · have hsplit := split_append_newline hbody (cut bs).2
    rw [← hbs] at hsplit
    rw [hsplit, hline]
  · rw [hcut, split_of_not_mem h hbs]
    rfl

/-- The texts of the lines of an input. -/
def texts (bs : Bytes) : List Text :=
  (split bs).map fun line => Utf8.decode (content line)

theorem texts_eq_cons_cut {bs : Bytes} (h : bs ≠ []) :
    texts bs = Utf8.decode (content (cut bs).1) :: texts (cut bs).2 := by
  rw [texts, split_eq_cons_cut h, List.map_cons]
  rfl

end LineShell.Line
