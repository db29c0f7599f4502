import FormAutomation.Text.Utf8
import Mathlib.Tactic.SplitIfs

/-!
# Bytes that are a text

A text is read from its bytes, and from no others: the bytes are read without a flaw if and
only if they are those of a text, and what is read is that text.

The ranges are made for this.  A character has only its shortest spelling, so two bytes begin
with 0xC2 at least, and after 0xE0 or 0xF0 the next byte has a higher least one.  After 0xED
the next byte has a lower greatest one, since the numbers from there are no characters, and
after 0xF4 since there are none above.
-/

namespace FormAutomation.Text.Utf8

/-! ## Spellings -/

/-- The numbers left out are the halves of pairs. -/
theorem toNat_range (c : Char) : c.toNat < 0xD800 ∨ 0xDFFF < c.toNat ∧ c.toNat < 0x110000 :=
  c.valid

theorem toNat_ofNat {n : Nat} (h : n < 0xD800 ∨ 0xDFFF < n ∧ n < 0x110000) :
    (Char.ofNat n).toNat = n := by
  rw [Char.ofNat, dif_pos h]
  rfl

/-- The byte goes on with a character. -/
def Continues (b : UInt8) : Prop :=
  0x80 ≤ b.toNat ∧ b.toNat ≤ 0xBF

/-- The bytes spell a number: the first one has its highest bits, and each other one the next
six.  No fewer bytes would do. -/
inductive Spells (n : Nat) : List UInt8 → Prop where
  /-- in one byte -/
  | one {a : UInt8} (ha : a.toNat < 0x80) (hn : n = a.toNat) : Spells n [a]
  /-- in two bytes -/
  | two {a b : UInt8} (ha : 0xC2 ≤ a.toNat ∧ a.toNat ≤ 0xDF) (hb : Continues b)
      (hn : n = (a.toNat - 0xC0) * 64 + (b.toNat - 0x80)) : Spells n [a, b]
  /-- in three bytes -/
  | three {a b d : UInt8} (ha : 0xE0 ≤ a.toNat ∧ a.toNat ≤ 0xEF) (hb : Continues b)
      (hd : Continues d) (hleast : 0x800 ≤ n)
      (hn : n = ((a.toNat - 0xE0) * 64 + (b.toNat - 0x80)) * 64 + (d.toNat - 0x80)) :
      Spells n [a, b, d]
  /-- in four bytes -/
  | four {a b d e : UInt8} (ha : 0xF0 ≤ a.toNat ∧ a.toNat ≤ 0xF4) (hb : Continues b)
      (hd : Continues d) (he : Continues e) (hleast : 0x10000 ≤ n)
      (hn : n = (((a.toNat - 0xF0) * 64 + (b.toNat - 0x80)) * 64 + (d.toNat - 0x80)) * 64
        + (e.toNat - 0x80)) :
      Spells n [a, b, d, e]

/-- The bytes of a character are the ones that spell its number. -/
theorem spells_iff {c : Char} {bytes : List UInt8} :
    Spells c.toNat bytes ↔ String.utf8EncodeChar c = bytes := by
  have hrange := toNat_range c
  constructor
  · intro h
    cases h
    all_goals
      unfold Continues at *
      simp only [String.utf8EncodeChar, Char.toNat_val]
      split_ifs
    all_goals
      simp only [List.cons.injEq, reduceCtorEq, and_true, and_false, ← UInt8.toNat_inj,
        UInt8.toNat_ofNat']
      omega
  · rintro rfl
    simp only [String.utf8EncodeChar, Char.toNat_val]
    split_ifs
    · refine .one ?_ ?_ <;> rw [UInt8.toNat_ofNat'] <;> omega
    · refine .two ?_ ?_ ?_ <;> simp only [Continues, UInt8.toNat_ofNat'] <;> omega
    · refine .three ?_ ?_ ?_ (by omega) ?_ <;>
        simp only [Continues, UInt8.toNat_ofNat'] <;> omega
    · refine .four ?_ ?_ ?_ ?_ (by omega) ?_ <;>
        simp only [Continues, UInt8.toNat_ofNat'] <;> omega

/-! ## How a character begins -/

theorem lead?_two {b : Nat} (h : 0xC2 ≤ b ∧ b ≤ 0xDF) :
    lead? b = some ⟨b - 0xC0, 1, 0x80, 0xBF⟩ :=
  if_pos h

/-- With the second of three bytes it is known that fewer would not do, and that the number is
that of a character. -/
theorem lead?_three {b : Nat} (h : 0xE0 ≤ b ∧ b ≤ 0xEF) :
    ∃ least greatest, lead? b = some ⟨b - 0xE0, 2, least, greatest⟩
      ∧ ∀ d, least ≤ d ∧ d ≤ greatest ↔ (0x80 ≤ d ∧ d ≤ 0xBF)
        ∧ 0x20 ≤ (b - 0xE0) * 64 + (d - 0x80)
        ∧ ((b - 0xE0) * 64 + (d - 0x80) < 0x360 ∨ 0x37F < (b - 0xE0) * 64 + (d - 0x80)) := by
  by_cases hfirst : b = 0xE0
  · subst hfirst
    exact ⟨_, _, rfl, fun d => by omega⟩
  by_cases hhalves : b = 0xED
  · subst hhalves
    exact ⟨_, _, rfl, fun d => by omega⟩
  · refine ⟨0x80, 0xBF, ?_, fun d => by omega⟩
    rw [lead?, if_neg (by omega), if_neg hfirst, if_neg hhalves, if_pos (by omega)]

/-- With the second of four bytes it is known that fewer would not do, and that the number is
that of a character. -/
theorem lead?_four {b : Nat} (h : 0xF0 ≤ b ∧ b ≤ 0xF4) :
    ∃ least greatest, lead? b = some ⟨b - 0xF0, 3, least, greatest⟩
      ∧ ∀ d, least ≤ d ∧ d ≤ greatest ↔ (0x80 ≤ d ∧ d ≤ 0xBF)
        ∧ 0x10 ≤ (b - 0xF0) * 64 + (d - 0x80) ∧ (b - 0xF0) * 64 + (d - 0x80) < 0x110 := by
  by_cases hfirst : b = 0xF0
  · subst hfirst
    exact ⟨_, _, rfl, fun d => by omega⟩
  by_cases hlast : b = 0xF4
  · subst hlast
    exact ⟨_, _, rfl, fun d => by omega⟩
  · refine ⟨0x80, 0xBF, ?_, fun d => by omega⟩
    rw [lead?, if_neg (by omega), if_neg (by omega), if_neg (by omega), if_neg (by omega),
      if_neg hfirst, if_pos (by omega)]

theorem lead?_range {b : Nat} {lead : Lead} (h : lead? b = some lead) :
    (0xC2 ≤ b ∧ b ≤ 0xDF) ∨ (0xE0 ≤ b ∧ b ≤ 0xEF) ∨ (0xF0 ≤ b ∧ b ≤ 0xF4) := by
  unfold lead? at h
  split_ifs at h
  all_goals omega

/-! ## What stands at the head -/

variable {bits more least greatest width n : Nat} {b : UInt8} {bytes rest tail : List UInt8}
  {c : Char}

theorem finish_zero :
    finish bits 0 least greatest width rest = .char (Char.ofNat bits) width :=
  rfl

theorem finish_cons (h : least ≤ b.toNat ∧ b.toNat ≤ greatest) :
    finish bits (more + 1) least greatest width (b :: rest)
      = finish (bits * 64 + (b.toNat - 0x80)) more 0x80 0xBF (width + 1) rest :=
  if_pos h

/-- A character with bytes to come goes on with one in the range. -/
theorem finish_succ_eq_char (h : finish bits (more + 1) least greatest width rest = .char c n) :
    ∃ b tail, rest = b :: tail ∧ (least ≤ b.toNat ∧ b.toNat ≤ greatest)
      ∧ finish (bits * 64 + (b.toNat - 0x80)) more 0x80 0xBF (width + 1) tail = .char c n := by
  cases rest with
  | nil => cases h
  | cons b tail =>
    by_cases hb : least ≤ b.toNat ∧ b.toNat ≤ greatest
    · rw [finish_cons hb] at h
      exact ⟨b, tail, rfl, hb, h⟩
    · rw [finish, if_neg hb] at h
      cases h

theorem head_of_lead (h : lead? b.toNat = some ⟨bits, more, least, greatest⟩) :
    head b rest = finish bits more least greatest 1 rest := by
  have hrange := lead?_range h
  rw [head, if_neg (by omega), h]

/-- The bytes of a character are read as it, whatever follows. -/
theorem head_of_spells (h : Spells c.toNat (b :: bytes)) :
    head b (bytes ++ tail) = .char c (bytes.length + 1) := by
  have hrange := toNat_range c
  cases h with
  | one hb hn =>
    rw [head, if_pos hb, ← hn, Char.ofNat_toNat]
    rfl
  | two hb hd hn =>
    rw [head_of_lead (lead?_two hb), List.cons_append, finish_cons hd, finish_zero, ← hn,
      Char.ofNat_toNat]
    rfl
  | @three _ d e hb hd he hleast hn =>
    obtain ⟨least, greatest, hlead, hnext⟩ := lead?_three hb
    unfold Continues at hd he
    have hd' := (hnext d.toNat).2 ⟨hd, by omega, by omega⟩
    rw [head_of_lead hlead, List.cons_append, finish_cons hd', List.cons_append, finish_cons he,
      finish_zero, ← hn, Char.ofNat_toNat]
    rfl
  | @four _ d e f hb hd he hf hleast hn =>
    obtain ⟨least, greatest, hlead, hnext⟩ := lead?_four hb
    unfold Continues at hd he hf
    have hd' := (hnext d.toNat).2 ⟨hd, by omega, by omega⟩
    rw [head_of_lead hlead, List.cons_append, finish_cons hd', List.cons_append, finish_cons he,
      List.cons_append, finish_cons hf, finish_zero, ← hn, Char.ofNat_toNat]
    rfl

/-- What is read as a character are bytes that spell it. -/
theorem spells_of_head (h : head b rest = .char c n) :
    ∃ bytes tail, rest = bytes ++ tail ∧ Spells c.toNat (b :: bytes) ∧ n = bytes.length + 1 := by
  by_cases hascii : b.toNat < 0x80
  · rw [head, if_pos hascii] at h
    obtain ⟨rfl, rfl⟩ := Head.char.inj h
    exact ⟨[], rest, rfl, .one hascii (toNat_ofNat (by omega)), rfl⟩
  rcases hsome : lead? b.toNat with _ | lead
  · rw [head, if_neg hascii, hsome] at h
    cases h
  rcases lead?_range hsome with hb | hb | hb
  · rw [head_of_lead (lead?_two hb)] at h
    obtain ⟨d, tail, rfl, hd, h⟩ := finish_succ_eq_char h
    rw [finish_zero] at h
    obtain ⟨rfl, rfl⟩ := Head.char.inj h
    exact ⟨[d], tail, rfl, .two hb hd (toNat_ofNat (by omega)), rfl⟩
  · obtain ⟨least, greatest, hlead, hnext⟩ := lead?_three hb
    rw [head_of_lead hlead] at h
    obtain ⟨d, tail, rfl, hd, h⟩ := finish_succ_eq_char h
    obtain ⟨e, tail, rfl, he, h⟩ := finish_succ_eq_char h
    obtain ⟨hd, hleast, hchar⟩ := (hnext d.toNat).1 hd
    rw [finish_zero] at h
    obtain ⟨rfl, rfl⟩ := Head.char.inj h
    have hn := toNat_ofNat (n := ((b.toNat - 0xE0) * 64 + (d.toNat - 0x80)) * 64
      + (e.toNat - 0x80)) (by omega)
    exact ⟨[d, e], tail, rfl, .three hb hd he (by omega) hn, rfl⟩
  · obtain ⟨least, greatest, hlead, hnext⟩ := lead?_four hb
    rw [head_of_lead hlead] at h
    obtain ⟨d, tail, rfl, hd, h⟩ := finish_succ_eq_char h
    obtain ⟨e, tail, rfl, he, h⟩ := finish_succ_eq_char h
    obtain ⟨f, tail, rfl, hf, h⟩ := finish_succ_eq_char h
    obtain ⟨hd, hleast, hchar⟩ := (hnext d.toNat).1 hd
    rw [finish_zero] at h
    obtain ⟨rfl, rfl⟩ := Head.char.inj h
    have hn := toNat_ofNat (n := (((b.toNat - 0xF0) * 64 + (d.toNat - 0x80)) * 64
      + (e.toNat - 0x80)) * 64 + (f.toNat - 0x80)) (by omega)
    exact ⟨[d, e, f], tail, rfl, .four hb hd he hf (by omega) hn, rfl⟩

/-! ## Texts -/

/-- The bytes of a text that is not empty are those of its first character and the rest. -/
theorem encode_cons_eq_cons_iff {cs : List Char} :
    b :: rest = encode (c :: cs) ↔
      ∃ bytes, Spells c.toNat (b :: bytes) ∧ rest = bytes ++ encode cs := by
  have hencode : encode (c :: cs) = String.utf8EncodeChar c ++ encode cs := List.flatMap_cons
  rw [hencode]
  constructor
  · intro h
    obtain ⟨d, bytes, hc⟩ := List.exists_cons_of_ne_nil (String.utf8EncodeChar_ne_nil (c := c))
    rw [hc] at h
    obtain ⟨rfl, rfl⟩ := List.cons.inj h
    exact ⟨bytes, spells_iff.2 hc, rfl⟩
  · rintro ⟨bytes, hc, rfl⟩
    rw [spells_iff.1 hc]
    rfl

/-- Past the bytes of a character already read, a text is read from its bytes. -/
theorem decodeFrom_eq_ok_iff {skip offset : Nat} {cs : List Char} :
    decodeFrom skip offset bytes = .ok cs ↔ bytes.drop skip = encode cs := by
  induction bytes generalizing skip offset cs with
  | nil =>
    rw [decodeFrom, List.drop_nil]
    cases cs with
    | nil => exact ⟨fun _ => rfl, fun _ => rfl⟩
    | cons c cs =>
      refine ⟨nofun, fun h => ?_⟩
      exact absurd (List.append_eq_nil_iff.1 h.symm).1 String.utf8EncodeChar_ne_nil
  | cons b rest ih =>
    cases skip with
    | succ skip => exact ih
    | zero =>
      rw [List.drop_zero]
      constructor
      · intro h
        rw [decodeFrom] at h
        rcases hhead : head b rest with ⟨c, n⟩ | ⟨why, n⟩
        · obtain ⟨bytes, tail, rfl, hc, rfl⟩ := spells_of_head hhead
          rw [hhead] at h
          rcases hrest : decodeFrom bytes.length (offset + 1) (bytes ++ tail) with fault | ds
          · simp only [Nat.add_sub_cancel, hrest, bind, Except.bind] at h
            cases h
          · simp only [Nat.add_sub_cancel, hrest, bind, Except.bind] at h
            cases h
            have htail := ih.1 hrest
            rw [List.drop_left] at htail
            exact encode_cons_eq_cons_iff.2 ⟨bytes, hc, by rw [htail]⟩
        · rw [hhead] at h
          cases h
      · intro h
        cases cs with
        | nil => cases h
        | cons c cs =>
          obtain ⟨bytes, hc, rfl⟩ := encode_cons_eq_cons_iff.1 h
          have hrest : decodeFrom bytes.length (offset + 1) (bytes ++ encode cs) = .ok cs :=
            ih.2 List.drop_left
          simp only [decodeFrom, head_of_spells hc, Nat.add_sub_cancel, hrest, bind, Except.bind]

/-- A text is read from its bytes, and from no others. -/
theorem decode_eq_ok_iff {cs : List Char} : decode bytes = .ok cs ↔ bytes = encode cs :=
  decodeFrom_eq_ok_iff

@[simp]
theorem decode_encode (cs : List Char) : decode (encode cs) = .ok cs :=
  decode_eq_ok_iff.2 rfl

end FormAutomation.Text.Utf8
