import LineShell.Utf8
import Mathlib.Algebra.Ring.Nat

/-!
# The bytes of a character

A character is a leading byte, which tells how many bytes follow, and its last bits in continuation
bytes (`encodeChar_eq_cons`). The encoding is that of the standard library (`encodeChar_eq`), so no
character's bytes begin those of another (`encodeChar_prefix_free`).

`Begins` says of bytes that some character starts with them. What a decoder has pending stands for
such bytes: `p.Follows m` says that the characters that start with `m` are those whose numbers fit
`p`. Every byte then completes a character, leaves a longer beginning pending, or cannot
go on with the beginning (`begin_cases`, `step_cases`).
-/

namespace LineShell.Utf8

/-! ## Leading and continuation bytes -/

/-- How many bytes follow the leading byte of the character with a given number. -/
def width (n : Nat) : Nat :=
  if n < 0x80 then 0 else if n < 0x800 then 1 else if n < 0x10000 then 2 else 3

/-- The value of the leading byte. -/
def lead (n : Nat) : Nat :=
  if n < 0x80 then n
  else if n < 0x800 then 0xC0 + n / 64
  else if n < 0x10000 then 0xE0 + n / 4096
  else 0xF0 + n / 262144

/-- Continuation bytes for the last bits of a number, six bits in each. -/
def trail : Nat → Nat → Bytes
  | 0, _ => []
  | k + 1, n => byte (0x80 + n / 64 ^ k % 64) :: trail k n

def IsContinuation (b : UInt8) : Prop := 0x80 ≤ b.toNat ∧ b.toNat < 0xC0

theorem toNat_byte {n : Nat} (h : n < 256) : (byte n).toNat = n := by
  rw [byte, UInt8.toNat_ofNat']
  exact Nat.mod_eq_of_lt h

theorem byte_toNat (b : UInt8) : byte b.toNat = b :=
  UInt8.ofNat_toNat

theorem lead_lt {n : Nat} (h : n.isValidChar) : lead n < 256 := by
  unfold lead
  simp only [Nat.isValidChar] at h
  split_ifs <;> omega

theorem isContinuation_of_mem_trail {k n : Nat} {b : UInt8} (h : b ∈ trail k n) :
    IsContinuation b := by
  induction k with
  | zero => exact absurd h List.not_mem_nil
  | succ k ih =>
      rcases List.mem_cons.mp h with rfl | hrest
      · have hsix : n / 64 ^ k % 64 < 64 := Nat.mod_lt _ (by omega)
        rw [IsContinuation, toNat_byte (by omega)]
        omega
      · exact ih hrest

theorem encodeChar_eq_cons (c : Char) :
    encodeChar c = byte (lead c.toNat) :: trail (width c.toNat) c.toNat := by
  simp only [encodeChar, lead, width]
  split_ifs <;> simp [trail]

theorem encodeChar_ne_nil (c : Char) : encodeChar c ≠ [] := by
  rw [encodeChar_eq_cons]
  exact List.cons_ne_nil _ _

theorem toNat_ofNat {n : Nat} (h : n.isValidChar) : (Char.ofNat n).toNat = n := by
  rw [Char.ofNat, dif_pos h]
  rfl

/-- The encoding is the standard library's. -/
theorem encodeChar_eq (c : Char) : encodeChar c = String.utf8EncodeChar c := by
  have hvalid := c.valid
  have hnumber : c.val.toNat = c.toNat := rfl
  simp only [UInt32.isValidChar, Nat.isValidChar, hnumber] at hvalid
  simp only [encodeChar, String.utf8EncodeChar, byte, hnumber]
  by_cases hone : c.toNat < 0x80
  · rw [if_pos hone, if_pos (by omega)]
  by_cases htwo : c.toNat < 0x800
  · have htop : c.toNat / 64 % 32 = c.toNat / 64 := by omega
    rw [if_neg hone, if_pos htwo, if_neg (by omega), if_pos (by omega), htop]
    simp only [Nat.add_comm]
  by_cases hthree : c.toNat < 0x10000
  · have htop : c.toNat / 4096 % 16 = c.toNat / 4096 := by omega
    rw [if_neg hone, if_neg htwo, if_pos hthree, if_neg (by omega), if_neg (by omega),
      if_pos (by omega), htop]
    simp only [Nat.add_comm]
  · have htop : c.toNat / 262144 % 8 = c.toNat / 262144 := by omega
    rw [if_neg hone, if_neg htwo, if_neg hthree, if_neg (by omega), if_neg (by omega),
      if_neg (by omega), htop]
    simp only [Nat.add_comm]

/-- The bytes of a character do not begin those of another. -/
theorem encodeChar_prefix_free {c d : Char} (h : encodeChar c <+: encodeChar d) : c = d := by
  obtain ⟨rest, hrest⟩ := h
  rw [encodeChar_eq, encodeChar_eq] at hrest
  have hc := ByteArray.utf8DecodeChar?_utf8EncodeChar_append (b := rest.toByteArray) (c := c)
  have hd := ByteArray.utf8DecodeChar?_utf8EncodeChar_append (b := .empty) (c := d)
  rw [← List.toByteArray_append, hrest] at hc
  rw [ByteArray.append_empty] at hd
  exact Option.some_inj.mp (hc.symm.trans hd)

/-! ## ASCII characters -/

theorem encode_cons (c : Char) (t : Text) : encode (c :: t) = encodeChar c ++ encode t :=
  List.flatMap_cons

theorem encode_append (s t : Text) : encode (s ++ t) = encode s ++ encode t :=
  List.flatMap_append

@[simp] theorem encode_eq_nil {t : Text} : encode t = [] ↔ t = [] := by
  cases t with
  | nil => exact iff_of_true rfl rfl
  | cons c t => simp [encode_cons, encodeChar_ne_nil]

section
variable {a : Char} (ha : a.toNat < 0x80)
include ha

theorem encodeChar_ascii : encodeChar a = [byte a.toNat] := by
  simp only [encodeChar]
  exact if_pos ha

/-- The byte of an ASCII character stands in the bytes of no other character. -/
theorem mem_encodeChar_ascii {c : Char} : byte a.toNat ∈ encodeChar c ↔ c = a := by
  constructor
  · intro hmem
    rw [encodeChar_eq_cons] at hmem
    rcases List.mem_cons.mp hmem with hlead | htrail
    · have hnumber := congrArg UInt8.toNat hlead
      have hvalid : c.toNat.isValidChar := c.valid
      rw [toNat_byte (by omega), toNat_byte (lead_lt hvalid), lead] at hnumber
      refine Char.toNat_inj.mp ?_
      split_ifs at hnumber <;> omega
    · have hlow := (isContinuation_of_mem_trail htrail).1
      rw [toNat_byte (by omega)] at hlow
      omega
  · rintro rfl
    rw [encodeChar_ascii ha]
    exact List.mem_cons_self

theorem mem_encode_ascii {t : Text} : byte a.toNat ∈ encode t ↔ a ∈ t := by
  rw [encode, List.mem_flatMap]
  constructor
  · rintro ⟨c, hc, hmem⟩
    exact (mem_encodeChar_ascii ha).mp hmem ▸ hc
  · intro hmem
    exact ⟨a, hmem, (mem_encodeChar_ascii ha).mpr rfl⟩

theorem head?_encode_ascii {t : Text} :
    (encode t).head? = some (byte a.toNat) ↔ t.head? = some a := by
  cases t with
  | nil => simp [encode]
  | cons c t =>
      rw [encode_cons, List.head?_append, List.head?_eq_some_head (encodeChar_ne_nil c),
        Option.some_or, ← List.head?_eq_some_head, List.head?_cons, Option.some_inj]
      refine ⟨fun hhead => (mem_encodeChar_ascii ha).mp (List.mem_of_head? hhead), ?_⟩
      rintro rfl
      rw [encodeChar_ascii ha]
      rfl

theorem getLast?_encode_ascii {t : Text} :
    (encode t).getLast? = some (byte a.toNat) ↔ t.getLast? = some a := by
  rcases List.eq_nil_or_concat t with rfl | ⟨s, c, rfl⟩
  · simp [encode]
  · have hbytes : encode (s ++ [c]) = encode s ++ encodeChar c := by
      rw [encode_append, encode_cons]
      exact congrArg (encode s ++ ·) (List.append_nil _)
    rw [List.concat_eq_append, hbytes, List.getLast?_append,
      List.getLast?_eq_some_getLast (encodeChar_ne_nil c), Option.some_or,
      ← List.getLast?_eq_some_getLast, List.getLast?_concat, Option.some_inj]
    refine ⟨fun hlast => (mem_encodeChar_ascii ha).mp (List.mem_of_getLast? hlast), ?_⟩
    rintro rfl
    rw [encodeChar_ascii ha]
    rfl

end

/-! ## Beginnings of characters -/

/-- Some character's bytes start with these. -/
def Begins (m : Bytes) : Prop := ∃ c, m <+: encodeChar c

theorem begins_encodeChar (c : Char) : Begins (encodeChar c) :=
  ⟨c, List.prefix_rfl⟩

theorem Begins.mono {l m : Bytes} (h : Begins m) (hle : l <+: m) : Begins l := by
  obtain ⟨c, hc⟩ := h
  exact ⟨c, hle.trans hc⟩

/-- What comes after the first byte of a character is a continuation byte. -/
theorem isContinuation_of_begins {m : Bytes} {b : UInt8} (hne : m ≠ []) (h : Begins (m ++ [b])) :
    IsContinuation b := by
  obtain ⟨c, hc⟩ := h
  cases m with
  | nil => exact absurd rfl hne
  | cons a m =>
      rw [encodeChar_eq_cons, List.cons_append, List.cons_prefix_cons] at hc
      exact isContinuation_of_mem_trail
        (hc.2.subset (List.mem_append_right m List.mem_cons_self))

/-! ## What is pending -/

/-- The number of a character that goes on as a pending one allows. -/
def Pending.Fits (p : Pending) (n : Nat) : Prop :=
  n / 64 ^ p.more / 64 = p.bits
    ∧ p.low ≤ 0x80 + n / 64 ^ p.more % 64 ∧ 0x80 + n / 64 ^ p.more % 64 ≤ p.high

/-- `p` is pending after the bytes `m`: they begin the characters whose numbers fit `p`. -/
structure Pending.Follows (m : Bytes) (p : Pending) : Prop where
  ne_nil : m ≠ []
  low_le : 0x80 ≤ p.low
  le_high : p.low ≤ p.high
  high_le : p.high ≤ 0xBF
  encodes : ∀ n, p.Fits n →
    n.isValidChar ∧ encodeChar (Char.ofNat n) = m ++ trail (p.more + 1) n
  fits : ∀ c, m <+: encodeChar c → p.Fits c.toNat

theorem Pending.fits_follow {p : Pending} {b : Nat} (hlow : 0x80 ≤ p.low) (hhigh : p.high ≤ 0xBF)
    (hb : p.low ≤ b ∧ b ≤ p.high) {n : Nat}
    (h : n / 64 ^ p.more = 64 * p.bits + (b - 0x80)) : p.Fits n := by
  rw [Fits, h]
  omega

/-- Something always can follow what is pending. -/
theorem Pending.Follows.begins {m : Bytes} {p : Pending} (h : p.Follows m) : Begins m := by
  have hfits : p.Fits ((64 * p.bits + (p.low - 0x80)) * 64 ^ p.more) :=
    fits_follow h.low_le h.high_le ⟨Nat.le_refl _, h.le_high⟩
      (Nat.mul_div_cancel _ (Nat.pow_pos (by omega)))
  exact ⟨_, (h.encodes _ hfits).2 ▸ List.prefix_append _ _⟩

/-- The bytes before what is pending are no whole character. -/
theorem Pending.Follows.encodeChar_ne {m : Bytes} {p : Pending} (h : p.Follows m) (c : Char) :
    encodeChar c ≠ m := by
  intro hm
  have hbytes := (h.encodes _ (h.fits c (hm ▸ List.prefix_rfl))).2
  rw [Char.ofNat_toNat, hm] at hbytes
  exact absurd (List.append_cancel_left (hbytes.symm.trans (List.append_nil m).symm))
    (List.cons_ne_nil _ _)

/-- A byte that goes on with what is pending is in its range. -/
theorem Pending.Follows.next {m : Bytes} {p : Pending} {b : UInt8} {c : Char} (h : p.Follows m)
    (hc : m ++ [b] <+: encodeChar c) :
    c.toNat / 64 ^ p.more = 64 * p.bits + (b.toNat - 0x80)
      ∧ p.low ≤ b.toNat ∧ b.toNat ≤ p.high := by
  have hfits := h.fits c ((List.prefix_append m [b]).trans hc)
  have hbytes := (h.encodes _ hfits).2
  rw [Char.ofNat_toNat] at hbytes
  rw [hbytes, List.prefix_append_right_inj, trail, List.cons_prefix_cons] at hc
  have hsix : c.toNat / 64 ^ p.more % 64 < 64 := Nat.mod_lt _ (by omega)
  have hb : b.toNat = 0x80 + c.toNat / 64 ^ p.more % 64 := by
    rw [hc.1, toNat_byte (by omega)]
  obtain ⟨hbits, hlow, hhigh⟩ := hfits
  omega

/-! ## Reading a byte -/

theorem lead_eq_toNat {b : UInt8} {c : Char} (h : [b] <+: encodeChar c) :
    lead c.toNat = b.toNat := by
  rw [encodeChar_eq_cons, List.cons_prefix_cons] at h
  rw [h.1]
  exact (toNat_byte (lead_lt c.valid)).symm

theorem Pending.follows_lead {b : UInt8} {p : Pending} (hlow : 0x80 ≤ p.low)
    (hle : p.low ≤ p.high) (hhigh : p.high ≤ 0xBF)
    (hlead : ∀ n, p.Fits n ↔ n.isValidChar ∧ lead n = b.toNat)
    (hwidth : ∀ n, p.Fits n → width n = p.more + 1) : p.Follows [b] where
  ne_nil := List.cons_ne_nil b []
  low_le := hlow
  le_high := hle
  high_le := hhigh
  encodes n hfits := by
    obtain ⟨hvalid, hn⟩ := (hlead n).mp hfits
    rw [encodeChar_eq_cons, toNat_ofNat hvalid, hn, byte_toNat, hwidth n hfits]
    exact ⟨hvalid, rfl⟩
  fits c hc := (hlead _).mpr ⟨c.valid, lead_eq_toNat hc⟩

theorem Pending.follows_begin {b : UInt8} {p : Pending} (h : begin b = ([], some p)) :
    p.Follows [b] := by
  simp only [begin] at h
  split_ifs at h <;>
    simp only [Prod.mk.injEq, Option.some.injEq, reduceCtorEq, and_false, true_and] at h
  all_goals
    subst h
    refine follows_lead (by dsimp only; omega) (by dsimp only; omega) (by dsimp only; omega)
      (fun n => ?_) (fun n hfits => ?_)
  -- each range of leading bytes against each length of a character
  all_goals
    simp only [Fits, lead, width, Nat.isValidChar, Nat.reduceAdd, Nat.reducePow, Nat.div_one] at *
    split_ifs <;> omega

theorem not_begins_of_begin {b : UInt8} (h : begin b = ([none], none)) : ¬ Begins [b] := by
  rintro ⟨c, hc⟩
  have hvalid : c.toNat.isValidChar := c.valid
  have hlead := lead_eq_toNat hc
  simp only [begin] at h
  simp only [lead, Nat.isValidChar] at hlead hvalid
  split_ifs at h hlead <;> first | omega | cases h

/-- A byte at which a character begins is a character, begins a longer one, or begins none. -/
theorem begin_cases (b : UInt8) :
    (∃ c, encodeChar c = [b] ∧ begin b = ([some c], none))
      ∨ (∃ p, p.Follows [b] ∧ begin b = ([], some p))
      ∨ (¬ Begins [b] ∧ begin b = ([none], none)) := by
  by_cases hone : b.toNat < 0x80
  · have hvalid : b.toNat.isValidChar := Or.inl (by omega)
    have hchar : begin b = ([some (Char.ofNat b.toNat)], none) := by
      simp only [begin]
      exact if_pos hone
    refine Or.inl ⟨_, ?_, hchar⟩
    rw [encodeChar_eq_cons, toNat_ofNat hvalid, lead, width, if_pos hone, if_pos hone, byte_toNat]
    rfl
  · have hshape : begin b = ([none], none) ∨ ∃ p, begin b = ([], some p) := by
      simp only [begin, if_neg hone]
      split_ifs <;> simp
    rcases hshape with hnone | ⟨p, hp⟩
    · exact Or.inr (Or.inr ⟨not_begins_of_begin hnone, hnone⟩)
    · exact Or.inr (Or.inl ⟨p, Pending.follows_begin hp, hp⟩)

theorem div_pow_div (n k : Nat) : n / 64 ^ k / 64 = n / 64 ^ (k + 1) := by
  rw [Nat.div_div_eq_div_mul, Nat.pow_succ]

/-- A byte completes the pending character, leaves a longer beginning, or cannot follow. -/
theorem step_cases {m : Bytes} {p : Pending} (h : p.Follows m) (b : UInt8) :
    (∃ c, encodeChar c = m ++ [b] ∧ step (some p) b = ([some c], none))
      ∨ (∃ q, q.Follows (m ++ [b]) ∧ step (some p) b = ([], some q))
      ∨ (¬ Begins (m ++ [b]) ∧ step (some p) b = (none :: (begin b).1, (begin b).2)) := by
  by_cases hb : p.low ≤ b.toNat ∧ b.toNat ≤ p.high
  · have hsix : byte (0x80 + (64 * p.bits + (b.toNat - 0x80)) % 64) = b := by
      have hlow := h.low_le
      have hhigh := h.high_le
      have hvalue : 0x80 + (64 * p.bits + (b.toNat - 0x80)) % 64 = b.toNat := by omega
      rw [hvalue, byte_toNat]
    -- the bits so far with the six of this byte
    have hencodes : ∀ n, n / 64 ^ p.more = 64 * p.bits + (b.toNat - 0x80) →
        n.isValidChar ∧ encodeChar (Char.ofNat n) = m ++ [b] ++ trail p.more n := by
      intro n hn
      obtain ⟨hvalid, hbytes⟩ :=
        h.encodes n (Pending.fits_follow h.low_le h.high_le hb hn)
      rw [trail, hn, hsix] at hbytes
      exact ⟨hvalid, by rw [hbytes, List.append_assoc]; rfl⟩
    cases hmore : p.more with
    | zero =>
        rw [hmore] at hencodes
        have hchar := (hencodes _ (Nat.div_one _)).2
        rw [trail, List.append_nil] at hchar
        refine Or.inl ⟨_, hchar, ?_⟩
        rw [step, if_pos hb, hmore]
    | succ more =>
        refine Or.inr (Or.inl ⟨⟨64 * p.bits + (b.toNat - 0x80), 0x80, 0xBF, more⟩, ?_, ?_⟩)
        · rw [hmore] at hencodes
          exact {
            ne_nil := List.append_ne_nil_of_right_ne_nil m (List.cons_ne_nil b [])
            low_le := Nat.le_refl _
            le_high := by dsimp only; omega
            high_le := Nat.le_refl _
            encodes := fun n hfits => hencodes n (by rw [← div_pow_div]; exact hfits.1)
            fits := fun c hc => by
              have hnext := (h.next hc).1
              rw [hmore, ← div_pow_div] at hnext
              exact ⟨hnext, by dsimp only; omega, by dsimp only; omega⟩ }
        · rw [step, if_pos hb, hmore]
  · refine Or.inr (Or.inr ⟨?_, ?_⟩)
    · rintro ⟨c, hc⟩
      exact hb (h.next hc).2
    · rw [step, if_neg hb]

end LineShell.Utf8
