import FormAutomation.Number.Binary64
import Mathlib.Tactic.ByContra
import Mathlib.Tactic.Linarith

/-!
# The range of doubles

A whole number has a double nearest to it unless its magnitude is too large.  The largest
double is `2 ^ 1024 - 2 ^ 971`, and the next magnitude that all 53 bits could hold would
be `2 ^ 1024`; halfway between the two, and from there on, rounding leads out of the
range.

The significand of a rounded whole number has all its bits in use, so only its exponent
matters, and at the largest exponent whether rounding carries.
-/

namespace FormAutomation.Binary64

/-- Half the distance between the largest doubles. -/
def halfStep : Nat := 2 ^ 970

/-- The least magnitude of a whole number to which no double is nearest. -/
def tooLarge : Nat := 2 ^ 1024 - halfStep

/-! ## Rounding to whole numbers -/

section

variable {num den b : Nat}

/-- What is at least a whole number is not rounded below it. -/
theorem le_roundHalfEven (hd : 0 < den) (h : b * den ≤ num) : b ≤ roundHalfEven num den := by
  have hq : b ≤ num / den := (Nat.le_div_iff_mul_le hd).2 h
  unfold roundHalfEven
  dsimp only
  split_ifs <;> omega

/-- What is at most a whole number is not rounded above it. -/
theorem roundHalfEven_le (hd : 0 < den) (h : num ≤ b * den) : roundHalfEven num den ≤ b := by
  have hnum : den * (num / den) + num % den = num := Nat.div_add_mod num den
  have hq : num / den ≤ b := Nat.div_le_of_le_mul (by rwa [Nat.mul_comm])
  -- a whole part of `b` leaves nothing to be rounded up
  have hrest : num / den = b → num % den = 0 := by
    rintro rfl
    rw [Nat.mul_comm] at h
    omega
  unfold roundHalfEven
  dsimp only
  split_ifs <;> omega

/-- An even whole number is reached exactly from halfway below it on. -/
theorem le_roundHalfEven_iff (hd : 0 < den) (hb : b % 2 = 0) :
    b ≤ roundHalfEven num den ↔ 2 * (b * den) ≤ 2 * num + den := by
  have hnum : den * (num / den) + num % den = num := Nat.div_add_mod num den
  have hrest : num % den < den := Nat.mod_lt num hd
  have hround : roundHalfEven num den
      = if 2 * (num % den) < den then num / den
        else if den < 2 * (num % den) then num / den + 1 else num / den + num / den % 2 := rfl
  rw [hround]
  generalize num / den = q at hnum
  generalize num % den = r at hnum hrest
  -- how far the number is above what its whole part holds
  rcases Nat.lt_trichotomy b (q + 1) with hlt | rfl | hgt
  · have hle : b * den ≤ den * q := by
      rw [Nat.mul_comm den]
      exact Nat.mul_le_mul_right den (Nat.le_of_lt_succ hlt)
    refine iff_of_true ?_ (by omega)
    split_ifs <;> omega
  · have hmul : (q + 1) * den = den * q + den := by
      rw [Nat.succ_mul, Nat.mul_comm]
    rw [hmul]
    split_ifs <;> omega
  · have hle : den * q + 2 * den ≤ b * den := by
      have := Nat.mul_le_mul_right den (Nat.succ_le_of_lt hgt)
      linarith
    refine iff_of_false ?_ (by omega)
    split_ifs <;> omega

end

/-! ## Exponents -/

theorem log2Ratio_one {num : Nat} (h : num ≠ 0) : log2Ratio num 1 = num.log2 := by
  have hle : 2 ^ num.log2 ≤ num := Nat.log2_self_le h
  unfold log2Ratio
  have hone : Nat.log2 1 = 0 := by decide
  simp only [hone, Int.natCast_zero, Int.sub_zero, Int.toNat_natCast, Int.toNat_neg_natCast]
  rw [if_pos]
  change 1 * 2 ^ num.log2 ≤ num * 2 ^ 0
  omega

/-- With the exponent that its logarithm gives, a positive number needs all 53 bits and no
more. -/
theorem scaled_bounds {num : Nat} (h : num ≠ 0) {e : Int} (he : e = num.log2 - 52) :
    2 ^ 52 * 2 ^ e.toNat ≤ num * 2 ^ (-e).toNat
      ∧ num * 2 ^ (-e).toNat ≤ 2 ^ 53 * 2 ^ e.toNat := by
  have hlow : 2 ^ num.log2 ≤ num := Nat.log2_self_le h
  have hhigh : num ≤ 2 ^ (num.log2 + 1) := Nat.le_of_lt Nat.lt_log2_self
  rcases Nat.le_total 52 num.log2 with hle | hle
  · -- bits are cut off
    obtain ⟨k, hk⟩ := Nat.exists_eq_add_of_le hle
    have hpos : e.toNat = k := by omega
    have hneg : (-e).toNat = 0 := by omega
    rw [hpos, hneg, ← Nat.pow_add, ← Nat.pow_add, Nat.pow_zero, Nat.mul_one, ← hk,
      Nat.add_right_comm 52 1 k, ← hk]
    exact ⟨hlow, hhigh⟩
  · -- zeros are added
    obtain ⟨k, hk⟩ := Nat.exists_eq_add_of_le hle
    have hpos : e.toNat = 0 := by omega
    have hneg : (-e).toNat = k := by omega
    rw [hpos, hneg, Nat.pow_zero, Nat.mul_one, Nat.mul_one]
    refine ⟨?_, ?_⟩
    · calc 2 ^ 52 = 2 ^ num.log2 * 2 ^ k := by rw [← Nat.pow_add, ← hk]
        _ ≤ num * 2 ^ k := Nat.mul_le_mul_right _ hlow
    · calc num * 2 ^ k ≤ 2 ^ (num.log2 + 1) * 2 ^ k := Nat.mul_le_mul_right _ hhigh
        _ = 2 ^ 53 := by rw [← Nat.pow_add, Nat.add_right_comm, ← hk]

/-! ## Whole numbers out of range -/

/-- A significand of 53 bits is in order with every exponent that is not too large. -/
theorem canonical_iff {m : Nat} {e : Int} (hlow : 2 ^ 52 ≤ m) (hhigh : m < 2 ^ 53)
    (he : -1074 ≤ e) : Canonical m e ↔ e ≤ 971 :=
  ⟨fun h => h.2.2.1, fun h => ⟨hhigh, he, h, .inl hlow⟩⟩

theorem ofParts_eq_infinity_iff {negative : Bool} {m : Nat} {e : Int} :
    (∃ sign, ofParts negative m e = .infinity sign) ↔ ¬ Canonical m e := by
  unfold ofParts
  split
  · next h => simp [h]
  · next h => simp [h]

/-- A whole number becomes infinite exactly if its exponent is too large after rounding. -/
theorem ofRatio_one_eq_infinity_iff {negative : Bool} {num : Nat} (h : num ≠ 0) {e : Int}
    (he : e = num.log2 - 52) :
    (∃ sign, ofRatio negative num 1 = .infinity sign)
      ↔ 971 < e ∨ e = 971
        ∧ 2 ^ 53 ≤ roundHalfEven (num * 2 ^ (-e).toNat) (2 ^ e.toNat) := by
  obtain ⟨hlow, hhigh⟩ := scaled_bounds h he
  have hexponent : max (-1074) (log2Ratio num 1 - 52) = e := by
    rw [log2Ratio_one h]
    omega
  have hdivisor : 1 * Nat.pow 2 e.toNat = 2 ^ e.toNat := Nat.one_mul _
  have hpositive : 0 < 2 ^ e.toNat := Nat.two_pow_pos _
  unfold ofRatio
  simp only [if_neg h, hexponent, hdivisor]
  change (∃ sign, (if roundHalfEven (num * 2 ^ (-e).toNat) (2 ^ e.toNat) = 2 ^ 53 then
    ofParts negative (2 ^ 52) (e + 1) else
    ofParts negative (roundHalfEven (num * 2 ^ (-e).toNat) (2 ^ e.toNat)) e) = .infinity sign) ↔ _
  have hleast := le_roundHalfEven hpositive hlow
  have hmost := roundHalfEven_le hpositive hhigh
  generalize roundHalfEven (num * 2 ^ (-e).toNat) (2 ^ e.toNat) = m at hleast hmost
  split_ifs with hm
  · -- rounding has carried into the next exponent
    rw [ofParts_eq_infinity_iff, canonical_iff (Nat.le_refl _) (by decide) (by omega), hm]
    omega
  · rw [ofParts_eq_infinity_iff, canonical_iff hleast (by omega) (by omega)]
    omega

/-- No double is nearest to a whole number exactly if its magnitude is too large. -/
theorem ofInt?_eq_none_iff (n : Int) : ofInt? n = none ↔ tooLarge ≤ n.natAbs := by
  have hinfinite : ofInt? n = none
      ↔ ∃ sign, ofRatio (n < 0) n.natAbs 1 = .infinity sign := by
    unfold ofInt?
    cases ofRatio (n < 0) n.natAbs 1 <;> simp
  rw [hinfinite]
  generalize n.natAbs = num
  -- all powers that matter are multiples of one of them
  have hpositive : 0 < halfStep := pow_pos Nat.two_pos _
  have hstep : 2 ^ 971 = 2 * halfStep := by rw [halfStep, ← Nat.pow_succ']
  have hlast : 2 ^ 1023 = 2 ^ 53 * halfStep := by rw [halfStep, ← Nat.pow_add]
  have hnext : 2 ^ 1024 = 2 ^ 54 * halfStep := by rw [halfStep, ← Nat.pow_add]
  have hbound : tooLarge = 2 ^ 54 * halfStep - halfStep := by rw [tooLarge, hnext]
  by_cases h : num = 0
  · subst h
    simp only [ofRatio, if_true, zero, reduceCtorEq, exists_false, false_iff]
    omega
  have hlow : 2 ^ num.log2 ≤ num := Nat.log2_self_le h
  have hhigh : num < 2 ^ (num.log2 + 1) := Nat.lt_log2_self
  rw [ofRatio_one_eq_infinity_iff h rfl]
  rcases Nat.lt_trichotomy num.log2 1023 with hlt | heq | hgt
  · -- the exponent stays small, whatever rounding does
    have hle : 2 ^ (num.log2 + 1) ≤ 2 ^ 1023 := pow_le_pow_right₀ one_le_two hlt
    exact iff_of_false (by omega) (by omega)
  · -- the largest exponent, so that it matters whether rounding carries
    have hpos : ((num.log2 : Int) - 52).toNat = 971 := by omega
    have hneg : (-((num.log2 : Int) - 52)).toNat = 0 := by omega
    rw [hpos, hneg, le_roundHalfEven_iff (pow_pos Nat.two_pos _) (by decide), hstep]
    omega
  · have hle : 2 ^ 1024 ≤ 2 ^ num.log2 := pow_le_pow_right₀ one_le_two hgt
    exact iff_of_true (.inl (by omega)) (by omega)

end FormAutomation.Binary64
