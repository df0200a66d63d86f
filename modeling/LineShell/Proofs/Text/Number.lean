import LineShell.Text

/-!
# Decimal numbers

A text `Denotes` an integer if it is an optional sign and then one or more ASCII digits, leading
zeros included. Reading a number accepts these texts and no other, and gives the integer that they
denote (`toInt?_eq_some_iff`). The decimal text of an integer denotes it (`denotes_ofInt`).
-/

namespace LineShell.Text

/-- One or more ASCII digits. -/
def IsDigits (t : Text) : Prop := t ≠ [] ∧ ∀ c ∈ t, c.isDigit = true

/-- The text is a number in decimal notation. -/
inductive Denotes : Text → Int → Prop
  | unsigned {digits : Text} (h : IsDigits digits) :
      Denotes digits (Nat.ofDigitChars 10 digits 0)
  | plus {digits : Text} (h : IsDigits digits) :
      Denotes ('+' :: digits) (Nat.ofDigitChars 10 digits 0)
  | minus {digits : Text} (h : IsDigits digits) :
      Denotes ('-' :: digits) (-Nat.ofDigitChars 10 digits 0)

/-! ## Digits -/

theorem digit?_eq (c : Char) :
    digit? c = if c.isDigit = true then some (c.toNat - '0'.toNat) else none := by
  have hrange : ('0' ≤ c ∧ c ≤ '9') ↔ c.isDigit = true := by
    rw [Char.isDigit, Bool.and_eq_true, decide_eq_true_iff, decide_eq_true_iff]
    rfl
  simp only [digit?, hrange]

theorem digitsFrom?_eq_some_iff {value n : Nat} {t : Text} :
    digitsFrom? value t = some n
      ↔ (∀ c ∈ t, c.isDigit = true) ∧ Nat.ofDigitChars 10 t value = n := by
  induction t generalizing value with
  | nil =>
      rw [digitsFrom?, Option.some_inj]
      exact ⟨fun h => ⟨fun _ hmem => absurd hmem List.not_mem_nil, h⟩, fun h => h.2⟩
  | cons c cs ih =>
      rw [digitsFrom?, List.forall_mem_cons]
      cases hdigit : c.isDigit with
      | false =>
          rw [digit?_eq, hdigit, if_neg Bool.false_ne_true]
          exact iff_of_false nofun fun h => Bool.false_ne_true h.1.1
      | true =>
          rw [digit?_eq, hdigit, if_pos rfl]
          simp only [ih, true_and]
          rfl

theorem toNat?_eq_some_iff {n : Nat} {t : Text} :
    toNat? t = some n ↔ IsDigits t ∧ Nat.ofDigitChars 10 t 0 = n := by
  cases t with
  | nil => exact iff_of_false nofun fun h => h.1.1 rfl
  | cons c cs =>
      rw [toNat?, digitsFrom?_eq_some_iff, IsDigits, and_assoc]
      exact (and_iff_right (List.cons_ne_nil c cs)).symm

/-! ## Signs -/

/-- A sign is no digit. -/
theorem IsDigits.head?_ne {t : Text} (h : IsDigits t) {sign : Char} (hsign : sign.isDigit = false)
    (rest : Text) : t ≠ sign :: rest := by
  rintro rfl
  cases hsign.symm.trans (h.2 sign (List.mem_cons_self ..))

theorem toInt?_of_digits {t : Text} (h : IsDigits t) :
    toInt? t = some (Nat.ofDigitChars 10 t 0 : Int) := by
  have hnat := toNat?_eq_some_iff.mpr ⟨h, rfl⟩
  unfold toInt?
  split
  · next rest => exact absurd rfl (h.head?_ne (by decide) rest)
  · next rest => exact absurd rfl (h.head?_ne (by decide) rest)
  · rw [hnat]
    rfl

theorem toInt?_eq_some_iff {t : Text} {n : Int} : toInt? t = some n ↔ Denotes t n := by
  constructor
  · intro h
    unfold toInt? at h
    split at h
    · obtain ⟨m, hm, rfl⟩ := Option.map_eq_some_iff.mp h
      obtain ⟨hdigits, rfl⟩ := toNat?_eq_some_iff.mp hm
      exact .plus hdigits
    · obtain ⟨m, hm, rfl⟩ := Option.map_eq_some_iff.mp h
      obtain ⟨hdigits, rfl⟩ := toNat?_eq_some_iff.mp hm
      exact .minus hdigits
    · obtain ⟨m, hm, rfl⟩ := Option.map_eq_some_iff.mp h
      obtain ⟨hdigits, rfl⟩ := toNat?_eq_some_iff.mp hm
      exact .unsigned hdigits
  · intro h
    cases h with
    | unsigned hdigits => exact toInt?_of_digits hdigits
    | plus hdigits =>
        rw [toInt?, toNat?_eq_some_iff.mpr ⟨hdigits, rfl⟩]
        rfl
    | minus hdigits =>
        rw [toInt?, toNat?_eq_some_iff.mpr ⟨hdigits, rfl⟩]
        rfl

/-! ## Decimal texts -/

theorem isDigits_ofNat (n : Nat) : IsDigits (ofNat n) :=
  ⟨Nat.toDigits_ne_nil, fun _ => Nat.isDigit_of_mem_toDigits (by decide) (by decide)⟩

theorem eq_or_isDigit_of_mem_ofInt {n : Int} {c : Char} (h : c ∈ ofInt n) :
    c = '-' ∨ c.isDigit = true := by
  cases n with
  | ofNat m => exact Or.inr ((isDigits_ofNat m).2 c h)
  | negSucc m =>
      rcases List.mem_cons.mp h with rfl | hmem
      · exact Or.inl rfl
      · exact Or.inr ((isDigits_ofNat (m + 1)).2 c hmem)

theorem denotes_ofInt (n : Int) : Denotes (ofInt n) n := by
  have hvalue : ∀ m : Nat, Nat.ofDigitChars 10 (ofNat m) 0 = m := fun m =>
    Nat.ofDigitChars_toDigits (by decide) (by decide)
  cases n with
  | ofNat m =>
      have hdenotes := Denotes.unsigned (isDigits_ofNat m)
      rw [hvalue] at hdenotes
      exact hdenotes
  | negSucc m =>
      have hdenotes := Denotes.minus (isDigits_ofNat (m + 1))
      rw [hvalue] at hdenotes
      exact hdenotes

end LineShell.Text
