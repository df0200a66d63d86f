import LineShell.LineSource
import LineShell.Proofs.Line.Lines

/-!
# What line sources hand out

A source of given bytes hands out their lines (`read_ofBytes`). A source that is refilled from
standard input hands out a line up to its newline, wherever the boundaries of the refills fall; it
hands out a line without a newline only if nothing is left (`fetch_cases`). What it leaves of the
input is a suffix of it (`input_fetch`).

Standard input that is a file or a pipe has no marks; it is then the bytes that are left.
-/

namespace LineShell

namespace Input

theorem ofBytes_drop (bs : Bytes) (n : Nat) : ofBytes (bs.drop n) = (ofBytes bs).drop n :=
  List.map_drop

theorem bytes_take_ofBytes (bs : Bytes) (n : Nat) : bytes ((ofBytes bs).take n) = bs.take n := by
  have htake : (ofBytes bs).take n = ofBytes (bs.take n) := List.map_take.symm
  rw [htake, bytes_ofBytes]

/-- Whatever is left of an input without marks has none. -/
theorem eq_ofBytes_of_suffix {i : Input} {bs : Bytes} (h : i <:+ ofBytes bs) :
    i = ofBytes (bs.drop ((ofBytes bs).length - i.length)) := by
  rw [ofBytes_drop]
  exact List.suffix_iff_eq_drop.mp h

theorem read_ofBytes (size : Nat) (bs : Bytes) :
    (ofBytes bs).read size = (bs.take size, ofBytes (bs.drop size)) := by
  induction bs generalizing size with
  | nil => cases size <;> rfl
  | cons b bs ih =>
      cases size with
      | zero => rfl
      | succ size =>
          have hrest : (ofBytes (b :: bs)).read (size + 1)
              = (b :: ((ofBytes bs).read size).1, ((ofBytes bs).read size).2) := rfl
          rw [hrest, ih]
          rfl

theorem input_read (size : Nat) (input : Input) : (input.read size).2 <:+ input := by
  fun_induction read size input with
  | case1 => exact List.suffix_rfl
  | case2 => exact List.suffix_cons _ _
  | case3 => exact List.suffix_rfl
  | case4 size b rest next ih => exact ih.trans (List.suffix_cons _ _)

end Input

namespace LineSource

/-! ## Given bytes -/

theorem fetch_never (bs : Bytes) (input : Input) :
    fetch .never bs input = ((Line.cut bs).1, (Line.cut bs).2, input) := by
  rw [fetch]
  split
  · rfl
  · next hended =>
      have hempty : (Refill.take .never input).1 = [] := rfl
      rw [if_pos hempty, Line.cut_snd_eq_nil (by simpa using hended)]
      rfl

theorem read_ofBytes (bs : Bytes) (input : Input) :
    (ofBytes bs).read input
      = (decodeLine false (Line.cut bs).1, ofBytes (Line.cut bs).2, input) := by
  simp only [read, ofBytes, fetch_never]

/-! ## Refilled buffers -/

theorem input_take (refill : Refill) (input : Input) : (refill.take input).2 <:+ input := by
  cases refill with
  | never => exact List.suffix_rfl
  | block size => exact input.input_read size

theorem input_fetch (refill : Refill) (held : Bytes) (input : Input) :
    (fetch refill held input).2.2 <:+ input := by
  rw [fetch]
  split
  · exact List.suffix_rfl
  · split
    · exact input_take refill input
    · exact (input_fetch refill (refill.take input).1 (refill.take input).2).trans
        (input_take refill input)
termination_by input.length
decreasing_by
  have hlen := Refill.length_take_le refill input
  have hpos := List.length_pos_iff.mpr ‹¬(refill.take input).1 = []›
  omega

theorem fetch_cases {size : Nat} (hsize : 0 < size) (held bs : Bytes) :
    (∃ body, Line.newline ∉ body
        ∧ (fetch (.block size) held (.ofBytes bs)).1 = body ++ [Line.newline])
      ∨ (Line.newline ∉ (fetch (.block size) held (.ofBytes bs)).1
        ∧ (fetch (.block size) held (.ofBytes bs)).2 = ([], [])) := by
  induction hn : bs.length using Nat.strongRecOn generalizing held bs with
  | _ n ih =>
      have htake : Refill.take (.block size) (.ofBytes bs)
          = (bs.take size, Input.ofBytes (bs.drop size)) := Input.read_ofBytes size bs
      rcases Line.cut_cases held with ⟨body, hbody, hline, -⟩ | ⟨hheld, hcut⟩
      · have hended : Line.isEnded (Line.cut held).1 = true :=
          hline ▸ Line.isEnded_append_newline body
        rw [fetch, if_pos hended, hline]
        exact Or.inl ⟨body, hbody, rfl⟩
      · -- the buffer holds no newline: all of it is handed out, and the rest comes from refills
        rw [fetch, hcut, if_neg (Line.not_isEnded hheld), htake]
        by_cases hbs : bs = []
        · subst hbs
          rw [if_pos List.take_nil]
          exact Or.inr ⟨hheld, by rw [List.drop_nil]; rfl⟩
        · have hchunk : bs.take size ≠ [] := by
            rw [Ne, List.take_eq_nil_iff]
            exact not_or.mpr ⟨Nat.ne_of_gt hsize, hbs⟩
          have hshorter : (bs.drop size).length < n := by
            have hpos := List.length_pos_iff.mpr hbs
            rw [List.length_drop]
            omega
          rw [if_neg hchunk]
          rcases ih _ hshorter (bs.take size) (bs.drop size) rfl with
            ⟨body, hbody, hline⟩ | ⟨hline, hleft⟩
          · refine Or.inl ⟨held ++ body, ?_, ?_⟩
            · exact fun hmem => (List.mem_append.mp hmem).elim hheld hbody
            · simp only [hline, List.append_assoc]
          · exact Or.inr ⟨fun hmem => (List.mem_append.mp hmem).elim hheld hline, hleft⟩

end LineSource
end LineShell
