import FormAutomation.Proofs.Value.Position
import FormAutomation.Value.Writer
import Mathlib.Algebra.Order.Field.Rat
import Mathlib.Data.Rat.Cast.Order
import Mathlib.Tactic.Push
import Mathlib.Tactic.SplitIfs

/-!
# Whole numbers and the texts of doubles

A finite double has an exact value, a rational number, and is a whole number if that is one.
Its text is then the text of the whole number, however large it is; the text of any other double
has a character in it that no whole number is written with, a point, the mark of an exponent or
a letter.

Different whole numbers have different texts, so a double and a whole number have the same text
exactly if they are the same number.
-/

namespace FormAutomation

namespace Binary64

/-! ## Exact values -/

/-- The exact value of a double, if it is finite. -/
def value? : Binary64 → Option ℚ
  | .finite negative m e _ => some ((if negative then -1 else 1) * m * 2 ^ e)
  | _ => none

theorem unitsPerOne_eq : unitsPerOne = 2 ^ 1074 := by
  decide +kernel

/-- The value of a finite double is as many units as it holds. -/
theorem value?_finite (negative : Bool) (m : Nat) (e : Int) (h : Canonical m e) :
    value? (.finite negative m e h) = some ((units negative m e : ℚ) / (unitsPerOne : ℚ)) := by
  obtain ⟨k, hk⟩ : ∃ k : Nat, e + 1074 = k := Int.eq_ofNat_of_zero_le (by have := h.2.1; omega)
  have hpower : (2 : ℚ) ^ e = 2 ^ k / 2 ^ 1074 := by
    have he : e = (k : Int) - (1074 : Nat) := by omega
    rw [he, zpow_sub₀ two_ne_zero, zpow_natCast, zpow_natCast]
  have hunits : ((units negative m e : Int) : ℚ) = (if negative then -1 else 1) * m * 2 ^ k := by
    have hshift : (e + 1074).toNat = k := by omega
    unfold units
    rw [hshift]
    cases negative <;> simp
  have hone : ((unitsPerOne : Int) : ℚ) = 2 ^ 1074 := by
    rw [unitsPerOne_eq, Int.cast_pow, Int.cast_ofNat]
  rw [value?, hpower, hunits, hone, mul_div_assoc]

/-- A double is a whole number if its value is. -/
theorem toInt?_eq_some_iff {x : Binary64} {n : Int} :
    x.toInt? = some n ↔ x.value? = some (n : ℚ) := by
  cases x with
  | nan => simp [toInt?, value?]
  | infinity negative => simp [toInt?, value?]
  | finite negative m e h =>
    have hpos : 0 < unitsPerOne := by decide +kernel
    rw [value?_finite, Option.some_inj, div_eq_iff (by exact_mod_cast hpos.ne')]
    have hcast : ((units negative m e : Int) : ℚ) = n * (unitsPerOne : Int)
        ↔ units negative m e = n * unitsPerOne := by exact_mod_cast Iff.rfl
    rw [hcast, toInt?]
    generalize unitsPerOne = one at hpos
    generalize units negative m e = number
    constructor
    · intro hn
      split_ifs at hn with hrest
      rw [← Option.some_inj.1 hn, Int.ediv_mul_cancel (Int.dvd_of_emod_eq_zero hrest)]
    · rintro rfl
      rw [if_pos (Int.mul_emod_left n one), Int.mul_ediv_cancel n hpos.ne']

end Binary64

/-! ## Texts of whole numbers -/

theorem intText_ne_nil (n : Int) : intText n ≠ [] :=
  List.append_ne_nil_of_right_ne_nil _ (isNumeral_digitsOf _).ne_nil

/-- A whole number is written with digits, and with a minus in front of them. -/
theorem mem_intText {c : Char} {n : Int} (h : c ∈ intText n) : c = '-' ∨ c.isDigit = true := by
  unfold intText at h
  rcases List.mem_append.1 h with h | h
  · split at h
    · exact .inl (List.mem_singleton.1 h)
    · cases h
  · exact .inr (Nat.isDigit_of_mem_toDigits (by decide) (by decide) h)

theorem digitsOf_injective {m n : Nat} (h : Decimal.digitsOf m = Decimal.digitsOf n) : m = n := by
  rw [← (isNumeral_digitsOf m).value, h, (isNumeral_digitsOf n).value]

/-- A minus is no digit. -/
theorem minus_cons_ne_digitsOf (cs : List Char) (n : Nat) : '-' :: cs ≠ Decimal.digitsOf n := by
  intro h
  have hmem : '-' ∈ Nat.toDigits 10 n := by
    rw [← Decimal.digitsOf, ← h]
    exact List.mem_cons_self
  exact absurd (Nat.isDigit_of_mem_toDigits (by decide) (by decide) hmem) (by decide)

/-- Different whole numbers have different texts. -/
theorem intText_injective {m n : Int} (h : intText m = intText n) : m = n := by
  unfold intText at h
  split_ifs at h with hm hn hn
  · have := digitsOf_injective (List.append_cancel_left h)
    omega
  · exact absurd h (minus_cons_ne_digitsOf _ _)
  · exact absurd h.symm (minus_cons_ne_digitsOf _ _)
  · have := digitsOf_injective (List.append_cancel_left h)
    omega

/-! ## Texts of doubles -/

/-- A decimal is written with a point or with an exponent. -/
theorem Layout.mem_decimalText (layout : Layout) (d : Decimal) :
    '.' ∈ layout.decimalText d ∨ 'e' ∈ layout.decimalText d := by
  have hdigits : Decimal.digitsOf d.digits ≠ [] := (isNumeral_digitsOf _).ne_nil
  unfold decimalText
  dsimp only
  split_ifs
  · rcases h : Decimal.digitsOf d.digits with _ | ⟨first, _ | ⟨second, rest⟩⟩
    · exact absurd h hdigits
    · simp [exponentText]
    · simp [exponentText]
  all_goals simp

/-- No double is written like a whole number, unless its point is left out. -/
theorem Layout.write_ne_intText (x : Binary64) (n : Int) : plain.write x ≠ intText n := by
  have hmark : ∃ c ∈ plain.write x, c ≠ '-' ∧ c.isDigit = false := by
    cases x with
    | nan => exact ⟨'n', by decide, by decide⟩
    | infinity negative => exact ⟨'i', by cases negative <;> decide, by decide⟩
    | finite negative m e h =>
      rcases plain.mem_decimalText (Binary64.shortest m e) with hpoint | hexponent
      · exact ⟨'.', List.mem_append_right _ hpoint, by decide⟩
      · exact ⟨'e', List.mem_append_right _ hexponent, by decide⟩
  obtain ⟨c, hc, hminus, hdigit⟩ := hmark
  intro h
  rcases mem_intText (h ▸ hc) with hc | hc
  · exact hminus hc
  · rw [hdigit] at hc
    cases hc

namespace Value

theorem toText_int_inj {m n : Int} : (Value.int m).toText = (Value.int n).toText ↔ m = n := by
  simp only [toText, String.ofList_inj]
  exact ⟨intText_injective, fun h => h ▸ rfl⟩

/-- A double has the text of a whole number exactly if it is that number. -/
theorem toText_float_eq_int_iff {x : Binary64} {n : Int} :
    (Value.float x).toText = (Value.int n).toText ↔ x.value? = some (n : ℚ) := by
  rw [← Binary64.toInt?_eq_some_iff]
  simp only [toText, doubleText]
  cases x.toInt? with
  | none =>
    rw [String.ofList_inj]
    exact iff_of_false (Layout.write_ne_intText x n) nofun
  | some k =>
    rw [Option.some_inj, String.ofList_inj]
    exact ⟨intText_injective, fun h => h ▸ rfl⟩

end Value

end FormAutomation
