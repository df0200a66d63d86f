import LineShell.IoError
import LineShell.Proofs.Text.Number

/-!
# Reasons and number notes

The full text of a system error is its reason and then the number in parentheses. No reason is empty
or has a parenthesis in it, whether the number is known or not (`isWording_reason`). So cutting the
full text at the note leaves just the reason (`reason_system`), and the full text does not end with
its reason (`not_reason_suffix_text`).
-/

namespace LineShell

/-- A phrase is cut off where it begins if its second character occurs nowhere before it. -/
theorem Text.before_append {blank mark : Char} {t : Text} (hne : mark ≠ blank) (hmark : mark ∉ t)
    (phrase rest : Text) :
    before (blank :: mark :: phrase) (t ++ (blank :: mark :: phrase) ++ rest) = t := by
  induction t with
  | nil =>
      have hstart : (blank :: mark :: phrase) <+: (blank :: mark :: phrase) ++ rest :=
        List.prefix_append _ _
      rw [List.nil_append, List.cons_append, before]
      exact if_pos (List.isPrefixOf_iff_prefix.mpr hstart)
  | cons c cs ih =>
      obtain ⟨-, hcs⟩ := List.ne_and_not_mem_of_not_mem_cons hmark
      have hlater : ¬ (blank :: mark :: phrase)
          <+: c :: (cs ++ (blank :: mark :: phrase) ++ rest) := by
        intro hstart
        -- the second character of the phrase would be the next one of the text, or the blank
        obtain ⟨-, hnext⟩ := List.cons_prefix_cons.mp hstart
        cases cs with
        | nil => exact hne (List.cons_prefix_cons.mp hnext).1
        | cons d ds =>
            obtain ⟨rfl, -⟩ := List.cons_prefix_cons.mp hnext
            exact hcs (List.mem_cons_self ..)
      rw [List.cons_append, List.cons_append, before,
        if_neg (fun hstart => hlater (List.isPrefixOf_iff_prefix.mp hstart)), ih hcs]

namespace Errno

/-- The character is no parenthesis: those begin and end a number note. -/
def IsPlain (c : Char) : Prop := c ≠ '(' ∧ c ≠ ')'

instance (c : Char) : Decidable (IsPlain c) :=
  inferInstanceAs (Decidable (_ ∧ _))

/-- There is a reason, and it can be told from a number note. -/
structure IsWording (reason : Text) : Prop where
  ne_nil : reason ≠ []
  plain : ∀ c ∈ reason, IsPlain c

theorem isPlain_of_all {cs : Text} (h : cs.all (fun c => decide (IsPlain c)) = true) :
    ∀ c ∈ cs, IsPlain c :=
  fun c hmem => of_decide_eq_true (List.all_eq_true.mp h c hmem)

theorem isWording_ofList {cs : Text} (hne : cs ≠ [])
    (h : cs.all (fun c => decide (IsPlain c)) = true) : IsWording (String.ofList cs).toList := by
  rw [String.toList_ofList]
  exact ⟨hne, isPlain_of_all h⟩

theorem isWording_of_mem_reasons : ∀ x ∈ reasons, IsWording x.2.toList := by
  unfold reasons
  -- the characters are taken from the literals: reading them back from the bytes would be slow
  repeat
    refine List.forall_mem_cons.mpr ⟨isWording_ofList (List.cons_ne_nil _ _) (by decide), ?_⟩
  exact List.forall_mem_nil _

theorem isWording_unknown (n : Errno) :
    IsWording ("Unknown error ".toList ++ Text.ofInt n) where
  ne_nil := List.cons_ne_nil _ _
  plain c hmem := by
    rcases List.mem_append.mp hmem with hmem | hmem
    · exact isPlain_of_all (by decide) c hmem
    · rcases Text.eq_or_isDigit_of_mem_ofInt hmem with rfl | hdigit
      · decide
      · constructor
        · rintro rfl
          cases hdigit
        · rintro rfl
          cases hdigit

theorem reason_ofNat (m : Nat) : reason (Int.ofNat m) = match reasons.lookup m with
    | some wording => wording.toList
    | none => "Unknown error ".toList ++ Text.ofInt (Int.ofNat m) := rfl

/-- A number has a reason of its own or that of an unknown error. -/
theorem isWording_reason (n : Errno) : IsWording n.reason := by
  cases n with
  | negSucc m => exact isWording_unknown (Int.negSucc m)
  | ofNat m =>
      rw [reason_ofNat]
      cases hlookup : reasons.lookup m with
      | none => exact isWording_unknown (Int.ofNat m)
      | some wording =>
          obtain ⟨before, after, hreasons, -⟩ := List.lookup_eq_some_iff.mp hlookup
          refine isWording_of_mem_reasons (m, wording) ?_
          rw [hreasons]
          exact List.mem_append_right _ (List.mem_cons_self ..)

end Errno

namespace IoError

theorem text_system (n : Errno) :
    (IoError.system n).text = n.reason ++ numberNote ++ (Text.ofInt n ++ ")".toList) :=
  List.append_assoc _ _ _

/-- The text up to the number note is the system's reason, and nothing of it is lost. -/
theorem reason_system (n : Errno) : (IoError.system n).reason = n.reason := by
  have hmark : '(' ∉ n.reason := fun hmem => (n.isWording_reason.plain '(' hmem).1 rfl
  have hbefore : Text.before numberNote (n.reason ++ numberNote ++ (Text.ofInt n ++ ")".toList))
      = n.reason := Text.before_append (by decide) hmark _ _
  have htext : (IoError.system n).reason = Text.before numberNote (IoError.system n).text := rfl
  rw [htext, text_system]
  exact hbefore

theorem not_reason_suffix_text (n : Errno) : ¬ n.reason <:+ (IoError.system n).text := by
  intro hsuffix
  obtain ⟨hne, hplain⟩ := n.isWording_reason
  obtain hnil | ⟨before, hbefore, -⟩ := List.suffix_concat_iff.mp hsuffix
  · exact hne hnil
  · have hmem : ')' ∈ n.reason := by
      rw [hbefore]
      exact List.mem_concat_self
    exact (hplain ')' hmem).2 rfl

end IoError
end LineShell
