import LineShell.Proofs.Utf8.Encoding

/-!
# Lenient decoding

`Lossy bs t` says how bytes become a text when nothing is refused: they fall into parts, each the
bytes of a character, a byte that begins no character, or a beginning of a character that its next
byte does not go on with. The first kind gives its character and the others the replacement
character. No part can be longer (`Element.not_begins`), so every sequence of bytes has exactly one
such text (`Lossy.unique`), and it is what decoding gives (`lossy_iff`).

Bytes can be cut for decoding wherever no continuation byte follows (`decode_append`), so around
every ASCII character. A character of the text other than the replacement stands encoded in the
bytes (`mem_decode`), and a text survives encoding and decoding (`decode_encode`).
-/

namespace LineShell.Utf8

/-! ## Parts -/

/-- The bytes that are decoded together, before those that follow, and what they become. -/
inductive Element (rest : Bytes) : Bytes → Char → Prop
  | char (c : Char) : Element rest (encodeChar c) c
  /-- No character begins with the byte. -/
  | stray {b : UInt8} (hbegins : ¬ Begins [b]) : Element rest [b] replacement
  /-- A character begins so, but does not go on with the next byte. -/
  | broken {m : Bytes} (hne : m ≠ []) (hbegins : Begins m) (hwhole : ∀ c, encodeChar c ≠ m)
      (hnext : ∀ b ∈ rest.head?, ¬ Begins (m ++ [b])) : Element rest m replacement

inductive Lossy : Bytes → Text → Prop
  | nil : Lossy [] []
  | cons {part rest : Bytes} {c : Char} {t : Text} (helement : Element rest part c)
      (hrest : Lossy rest t) : Lossy (part ++ rest) (c :: t)

namespace Element

variable {p q x y : Bytes} {c d : Char}

theorem ne_nil (h : Element x p c) : p ≠ [] := by
  cases h with
  | char => exact encodeChar_ne_nil c
  | stray => exact List.cons_ne_nil _ _
  | broken hne => exact hne

/-- The next byte cannot belong to a part. -/
theorem not_begins {b : UInt8} (h : Element (b :: x) p c) : ¬ Begins (p ++ [b]) := by
  intro hbegins
  cases h with
  | char =>
      obtain ⟨d, hd⟩ := hbegins
      obtain rfl := encodeChar_prefix_free ((List.prefix_append _ _).trans hd)
      have hlength := hd.length_le
      rw [List.length_append, List.length_singleton] at hlength
      omega
  | stray hnone => exact hnone (hbegins.mono (List.prefix_append _ _))
  | broken _ _ _ hnext => exact hnext b rfl hbegins

/-- A part of more than one byte begins a character. -/
theorem begins_or_single (h : Element x p c) : Begins p ∨ ∃ b, p = [b] := by
  cases h with
  | char => exact Or.inl (begins_encodeChar c)
  | stray => exact Or.inr ⟨_, rfl⟩
  | broken _ hbegins => exact Or.inl hbegins

/-- A part is the bytes of its character, or of no character at all. -/
theorem whole_or_malformed (h : Element x p c) :
    p = encodeChar c ∨ (c = replacement ∧ ∀ d, encodeChar d ≠ p) := by
  cases h with
  | char => exact Or.inl rfl
  | stray hnone => exact Or.inr ⟨rfl, fun d hd => hnone (hd ▸ begins_encodeChar d)⟩
  | broken _ _ hwhole => exact Or.inr ⟨rfl, hwhole⟩

theorem char_unique (hc : Element x p c) (hd : Element y p d) : c = d := by
  rcases hc.whole_or_malformed with rfl | ⟨rfl, hnone⟩
  · rcases hd.whole_or_malformed with hbytes | ⟨-, hnone⟩
    · exact encodeChar_prefix_free (hbytes ▸ List.prefix_rfl)
    · exact absurd rfl (hnone c)
  · rcases hd.whole_or_malformed with rfl | ⟨rfl, -⟩
    · exact absurd rfl (hnone d)
    · rfl

theorem eq_of_le (hp : Element x p c) (hq : Element y q d) (hbytes : p ++ x = q ++ y)
    (hle : p <+: q) : p = q := by
  obtain ⟨z, rfl⟩ := hle
  cases z with
  | nil => exact (List.append_nil p).symm
  | cons b z =>
      -- the shorter part would go on in the longer one
      rw [List.append_assoc] at hbytes
      obtain rfl := List.append_cancel_left hbytes
      have hbegins : Begins (p ++ [b]) := by
        rcases hq.begins_or_single with hbegins | ⟨a, ha⟩
        · exact hbegins.mono (List.prefix_append_right_inj p |>.mpr ⟨z, rfl⟩)
        · have hlength := congrArg List.length ha
          have hpos := List.length_pos_iff.mpr hp.ne_nil
          simp only [List.length_append, List.length_cons, List.length_nil] at hlength
          omega
      exact absurd hbegins hp.not_begins

/-- Bytes start with one part only. -/
theorem unique (hp : Element x p c) (hq : Element y q d) (hbytes : p ++ x = q ++ y) :
    p = q ∧ x = y ∧ c = d := by
  have hpq : p = q := by
    rcases List.append_eq_append_iff.mp hbytes with ⟨z, hz, -⟩ | ⟨z, hz, -⟩
    · exact eq_of_le hp hq hbytes ⟨z, hz.symm⟩
    · exact (eq_of_le hq hp hbytes.symm ⟨z, hz.symm⟩).symm
  subst hpq
  exact ⟨rfl, List.append_cancel_left hbytes, hp.char_unique hq⟩

end Element

theorem Lossy.unique {bs : Bytes} {t u : Text} (ht : Lossy bs t) (hu : Lossy bs u) : t = u := by
  induction ht generalizing u with
  | nil =>
      generalize hbs : ([] : Bytes) = bs at hu
      cases hu with
      | nil => rfl
      | cons helement => exact absurd (List.append_eq_nil_iff.mp hbs.symm).1 helement.ne_nil
  | @cons part rest c t helement hrest ih =>
      generalize hbs : part ++ rest = bs at hu
      cases hu with
      | nil => exact absurd (List.append_eq_nil_iff.mp hbs).1 helement.ne_nil
      | cons helement' hrest' =>
          obtain ⟨-, rfl, rfl⟩ := helement.unique helement' hbs
          rw [ih hrest']

/-! ## Decoding -/

/-- The text that is read from a given state. -/
def decodeFrom (state : Option Pending) (bs : Bytes) : Text :=
  (elements state bs).map (·.getD replacement)

theorem decodeFrom_cons (state : Option Pending) (b : UInt8) (bs : Bytes) :
    decodeFrom state (b :: bs)
      = (step state b).1.map (·.getD replacement) ++ decodeFrom (step state b).2 bs := by
  simp only [decodeFrom, elements, List.map_append]

/-- Decoding gives a text of the bytes, and with bytes pending, a text of these and the others. -/
theorem lossy_decodeFrom (bs : Bytes) :
    Lossy bs (decodeFrom none bs)
      ∧ ∀ (m : Bytes) (p : Pending), p.Follows m → Lossy (m ++ bs) (decodeFrom (some p) bs) := by
  induction bs with
  | nil =>
      refine ⟨Lossy.nil, fun m p h => Lossy.cons ?_ Lossy.nil⟩
      exact Element.broken h.ne_nil h.begins h.encodeChar_ne nofun
  | cons b bs ih =>
      have hstart : Lossy (b :: bs) (decodeFrom none (b :: bs)) := by
        rw [decodeFrom_cons, step]
        rcases begin_cases b with ⟨c, hc, hb⟩ | ⟨p, hp, hb⟩ | ⟨hnone, hb⟩
        · rw [hb, ← List.singleton_append, ← hc]
          exact Lossy.cons (Element.char c) ih.1
        · rw [hb]
          exact ih.2 [b] p hp
        · rw [hb]
          exact Lossy.cons (Element.stray hnone) ih.1
      refine ⟨hstart, fun m p h => ?_⟩
      rw [decodeFrom_cons]
      rcases step_cases h b with ⟨c, hc, hb⟩ | ⟨q, hq, hb⟩ | ⟨hnone, hb⟩
      · rw [hb, List.append_cons, ← hc]
        exact Lossy.cons (Element.char c) ih.1
      · rw [hb, List.append_cons]
        exact ih.2 (m ++ [b]) q hq
      · -- the byte is read afresh
        rw [hb, List.map_cons, List.cons_append]
        refine Lossy.cons (Element.broken h.ne_nil h.begins h.encodeChar_ne ?_) ?_
        · rintro a ⟨⟩
          exact hnone
        · exact (decodeFrom_cons none b bs) ▸ hstart

/-- Decoding gives the one text of the bytes. -/
theorem lossy_iff {bs : Bytes} {t : Text} : Lossy bs t ↔ t = decode bs := by
  constructor
  · exact fun h => h.unique (lossy_decodeFrom bs).1
  · rintro rfl
    exact (lossy_decodeFrom bs).1

theorem lossy_decode (bs : Bytes) : Lossy bs (decode bs) :=
  lossy_iff.mpr rfl

theorem decode_eq_nil {bs : Bytes} (h : decode bs = []) : bs = [] := by
  have hlossy := lossy_decode bs
  rw [h] at hlossy
  cases hlossy
  rfl

/-! ## Cutting bytes -/

theorem Element.append {rest part q : Bytes} {c : Char} (h : Element rest part c)
    (hq : ∀ b ∈ q.head?, ¬ IsContinuation b) : Element (rest ++ q) part c := by
  cases h with
  | char => exact Element.char c
  | stray hnone => exact Element.stray hnone
  | broken hne hbegins hwhole hnext =>
      refine Element.broken hne hbegins hwhole fun b hb => ?_
      cases rest with
      | nil => exact fun hmore => hq b hb (isContinuation_of_begins hne hmore)
      | cons => exact hnext b hb

theorem Lossy.append {p q : Bytes} {s t : Text} (hp : Lossy p s) (hq : Lossy q t)
    (hhead : ∀ b ∈ q.head?, ¬ IsContinuation b) : Lossy (p ++ q) (s ++ t) := by
  induction hp with
  | nil => exact hq
  | cons helement hrest ih =>
      rw [List.append_assoc]
      exact Lossy.cons (helement.append hhead) ih

theorem decode_append {p q : Bytes} (hhead : ∀ b ∈ q.head?, ¬ IsContinuation b) :
    decode (p ++ q) = decode p ++ decode q :=
  (lossy_iff.mp ((lossy_decode p).append (lossy_decode q) hhead)).symm

theorem decode_encodeChar_append (c : Char) (bs : Bytes) :
    decode (encodeChar c ++ bs) = c :: decode bs :=
  (lossy_iff.mp (Lossy.cons (Element.char c) (lossy_decode bs))).symm

/-- What is decoded around an ASCII character does not depend on the other side. -/
theorem decode_around {c : Char} (hc : c.toNat < 0x80) (p q : Bytes) :
    decode (p ++ byte c.toNat :: q) = decode p ++ c :: decode q := by
  have hbytes : encodeChar c = [byte c.toNat] := encodeChar_ascii hc
  have hhead : ∀ b ∈ (byte c.toNat :: q).head?, ¬ IsContinuation b := by
    rintro b ⟨⟩ ⟨hlow, -⟩
    rw [toNat_byte (by omega)] at hlow
    omega
  rw [decode_append hhead, ← List.singleton_append, ← hbytes, decode_encodeChar_append]

/-- A text is what its encoding decodes to. -/
theorem decode_encode (t : Text) : decode (encode t) = t := by
  induction t with
  | nil => rfl
  | cons c t ih =>
      rw [encode_cons, decode_encodeChar_append, ih]

theorem encode_injective : Function.Injective encode :=
  Function.LeftInverse.injective decode_encode

/-! ## Characters of the text -/

/-- What is left of the text is a text of what is left of the bytes. -/
theorem Lossy.of_append {bs : Bytes} {s t : Text} (h : Lossy bs (s ++ t)) :
    ∃ p q, bs = p ++ q ∧ Lossy q t := by
  induction s generalizing bs with
  | nil => exact ⟨[], bs, rfl, h⟩
  | cons c s ih =>
      cases h with
      | cons helement hrest =>
          obtain ⟨p, q, rfl, hq⟩ := ih hrest
          exact ⟨_ ++ p, q, (List.append_assoc _ p q).symm, hq⟩

theorem Lossy.cons_inv {bs : Bytes} {c : Char} {t : Text} (h : Lossy bs (c :: t))
    (hc : c ≠ replacement) : ∃ rest, bs = encodeChar c ++ rest ∧ Lossy rest t := by
  cases h with
  | cons helement hrest =>
      rcases helement.whole_or_malformed with rfl | ⟨hreplaced, -⟩
      · exact ⟨_, rfl, hrest⟩
      · exact absurd hreplaced hc

theorem mem_decode {bs : Bytes} {c : Char} (h : c ∈ decode bs) (hc : c ≠ replacement) :
    encodeChar c <:+: bs := by
  obtain ⟨s, t, hst⟩ := List.append_of_mem h
  obtain ⟨p, q, rfl, hq⟩ := Lossy.of_append (hst ▸ lossy_decode bs)
  obtain ⟨rest, rfl, -⟩ := hq.cons_inv hc
  exact ⟨p, rest, List.append_assoc p (encodeChar c) rest⟩

theorem suffix_of_decode_eq {bs : Bytes} {c : Char} {s : Text} (h : decode bs = s ++ [c])
    (hc : c ≠ replacement) : encodeChar c <:+ bs := by
  obtain ⟨p, q, rfl, hq⟩ := Lossy.of_append (h ▸ lossy_decode bs)
  obtain ⟨rest, rfl, hrest⟩ := hq.cons_inv hc
  cases hrest
  exact ⟨p, by rw [List.append_nil]⟩

end LineShell.Utf8
