import LineShell.Text

/-!
# Splitting texts

Splitting at a separator is the library's (`split_eq_splitOn`). A text without the separator is one
piece, and a text that is cut at a separator has the pieces of both parts (`splitOn_append`). No
piece has the separator in it, and all of its characters are the text's (`of_mem_split`).
-/

namespace LineShell.Text

variable {α : Type} [DecidableEq α]

theorem split_of_not_mem {sep : α} {t : List α} (h : sep ∉ t) : split sep t = [t] := by
  induction t with
  | nil => rfl
  | cons c cs ih =>
      have hc : c ≠ sep := fun heq => h (heq ▸ List.mem_cons_self ..)
      have hcs : sep ∉ cs := fun hmem => h (List.mem_cons_of_mem c hmem)
      rw [split, if_neg hc, ih hcs]

theorem of_mem_split {sep : α} {t piece : List α} (h : piece ∈ split sep t) :
    sep ∉ piece ∧ piece ⊆ t := by
  induction t generalizing piece with
  | nil =>
      obtain rfl := List.mem_singleton.mp h
      exact ⟨List.not_mem_nil, List.nil_subset _⟩
  | cons c cs ih =>
      have hcs : cs ⊆ c :: cs := List.subset_cons_self c cs
      have hrest : ∀ {piece}, piece ∈ split sep cs → sep ∉ piece ∧ piece ⊆ c :: cs :=
        fun hmem => ⟨(ih hmem).1, List.Subset.trans (ih hmem).2 hcs⟩
      rw [split] at h
      by_cases hc : c = sep
      · rw [if_pos hc] at h
        rcases List.mem_cons.mp h with rfl | hmem
        · exact ⟨List.not_mem_nil, List.nil_subset _⟩
        · exact hrest hmem
      · rw [if_neg hc] at h
        cases hsplit : split sep cs with
        | nil => exact absurd hsplit (split_ne_nil sep cs)
        | cons first rest =>
            rw [hsplit] at h hrest
            rcases List.mem_cons.mp h with rfl | hmem
            · obtain ⟨hfirst, hsubset⟩ := hrest (List.mem_cons_self ..)
              refine ⟨?_, List.cons_subset.mpr ⟨List.mem_cons_self .., hsubset⟩⟩
              exact fun hmem => (List.mem_cons.mp hmem).elim (Ne.symm hc) hfirst
            · exact hrest (List.mem_cons_of_mem first hmem)

/-- Splitting is the library's. -/
theorem split_eq_splitOn (sep : α) (t : List α) : split sep t = t.splitOn sep := by
  rw [List.splitOn_eq_splitOnP]
  induction t with
  | nil => rfl
  | cons c cs ih =>
      rw [split, List.splitOnP_cons_eq_if_modifyHead, ← ih]
      by_cases hc : c = sep
      · rw [if_pos hc, if_pos (by simpa using hc)]
      · rw [if_neg hc, if_neg (by simpa using hc)]
        cases hsplit : split sep cs with
        | nil => exact (split_ne_nil sep cs hsplit).elim
        | cons w ws => rfl

theorem splitOn_append (sep : α) (p q : List α) :
    (p ++ sep :: q).splitOn sep = p.splitOn sep ++ q.splitOn sep := by
  simp only [List.splitOn_eq_splitOnP]
  exact List.splitOnP_append_cons p q (beq_self_eq_true sep)

end LineShell.Text
