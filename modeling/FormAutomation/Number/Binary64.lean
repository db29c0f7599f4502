/-!
# Double-precision numbers

The numbers of a payload that carry a point or an exponent are binary64 values.
Nothing here computes with them — they are read, compared, tested for being
whole and written — so each is kept as what it is, an exact multiple of a power
of two, and the only rounding is the one that brings a ratio onto the grid.

Every magnitude has exactly one significand and exponent (`Canonical`), so two
values are the same number with the same sign exactly when they are equal.
-/

namespace FormAutomation

namespace Binary64

/-- The one form that binary64 gives a magnitude `m * 2 ^ e`: all 53 bits in
use, or the smallest exponent. -/
def Canonical (m : Nat) (e : Int) : Prop :=
  m < Nat.pow 2 53 ∧ -1074 ≤ e ∧ e ≤ 971 ∧ (Nat.pow 2 52 ≤ m ∨ e = -1074)

instance (m : Nat) (e : Int) : Decidable (Canonical m e) :=
  inferInstanceAs (Decidable (_ ∧ _))

end Binary64

/-- A double-precision number. -/
inductive Binary64 where
  /-- no number -/
  | nan
  /-- an infinity of either sign -/
  | infinity (negative : Bool)
  /-- plus or minus `significand * 2 ^ exponent` -/
  | finite (negative : Bool) (significand : Nat) (exponent : Int)
      (canonical : Binary64.Canonical significand exponent)
  deriving DecidableEq

namespace Binary64

instance : Inhabited Binary64 := ⟨.nan⟩

/-- Zero of either sign. -/
def zero (negative : Bool) : Binary64 :=
  .finite negative 0 (-1074) (by decide)

/-! ## Rounding -/

/-- `num / den` to the nearest whole number, a half to the even neighbour. -/
def roundHalfEven (num den : Nat) : Nat :=
  let q := num / den
  let r := num % den
  if 2 * r < den then q else if den < 2 * r then q + 1 else q + q % 2

/-- The whole part of the binary logarithm of a positive ratio. -/
def log2Ratio (num den : Nat) : Int :=
  let guess := (num.log2 : Int) - den.log2
  if den * Nat.pow 2 guess.toNat ≤ num * Nat.pow 2 (-guess).toNat then guess else guess - 1

/-- The number with this sign, significand and exponent if there is one;
otherwise the magnitude is too large, and the result infinite. -/
def ofParts (negative : Bool) (m : Nat) (e : Int) : Binary64 :=
  if h : Canonical m e then .finite negative m e h else .infinity negative

/-- The double nearest to `num / den`, a tie to the even significand; a ratio
from halfway past the largest double on is infinite. -/
def ofRatio (negative : Bool) (num den : Nat) : Binary64 :=
  if num = 0 then zero negative
  else
    let e := max (-1074) (log2Ratio num den - 52)
    let m := roundHalfEven (num * Nat.pow 2 (-e).toNat) (den * Nat.pow 2 e.toNat)
    if m = Nat.pow 2 53 then ofParts negative (Nat.pow 2 52) (e + 1) else ofParts negative m e

/-- The double nearest to `digits * 10 ^ exponent`.

Powers that would leave the range whatever the digits are not computed: beyond
`10 ^ 400` any positive number is infinite, and a product below `2 ^ -1100` is
zero (a tenth is less than an eighth). -/
def ofDecimal (negative : Bool) (digits : Nat) (exponent : Int) : Binary64 :=
  if digits = 0 then zero negative
  else if 400 < exponent then .infinity negative
  else if (digits.log2 : Int) + 1 + 3 * exponent < -1100 then zero negative
  else ofRatio negative (digits * Nat.pow 10 exponent.toNat) (Nat.pow 10 (-exponent).toNat)

/-- The double nearest to a whole number, or nothing when that is infinite. -/
def ofInt? (n : Int) : Option Binary64 :=
  match ofRatio (n < 0) n.natAbs 1 with
  | .infinity _ => none
  | x => some x

/-- The double nearest to a natural number of ordinary size. -/
def ofNat (n : Nat) : Binary64 :=
  ofRatio false n 1

/-! ## Order

Finite doubles are multiples of the smallest positive one, so they compare as
the whole numbers of such units they hold. -/

/-- The value in units of `2 ^ -1074`. -/
def units (negative : Bool) (m : Nat) (e : Int) : Int :=
  let magnitude : Int := (m * Nat.pow 2 (e + 1074).toNat : Nat)
  if negative then -magnitude else magnitude

/-- `x < y`; false when either is no number. -/
def lt : Binary64 → Binary64 → Bool
  | .nan, _ => false
  | _, .nan => false
  | .infinity a, .infinity b => a && !b
  | .infinity a, .finite .. => a
  | .finite .., .infinity b => !b
  | .finite a m e _, .finite b n f _ => decide (units a m e < units b n f)

/-- `x ≤ y`; false when either is no number. -/
def le : Binary64 → Binary64 → Bool
  | .nan, _ => false
  | _, .nan => false
  | .infinity a, .infinity b => a || !b
  | .infinity a, .finite .. => a
  | .finite .., .infinity b => !b
  | .finite a m e _, .finite b n f _ => decide (units a m e ≤ units b n f)

/-- Whether it is no number. -/
def isNaN : Binary64 → Bool
  | .nan => true
  | _ => false

/-- The first number, or the second when that is greater: with a second that is
no number the first is kept. -/
def atLeast (least x : Binary64) : Binary64 :=
  if least.lt x then x else least

/-! ## Whole values -/

/-- How many units one holds. -/
def unitsPerOne : Int :=
  (Nat.pow 2 1074 : Nat)

/-- The whole number that a double is, if it is one. -/
def toInt? : Binary64 → Option Int
  | .finite a m e _ =>
    let n := units a m e
    if n % unitsPerOne = 0 then some (n / unitsPerOne) else none
  | _ => none

/-- The whole part toward zero of a finite double. -/
def truncate? : Binary64 → Option Int
  | .finite a m e _ => some (Int.tdiv (units a m e) unitsPerOne)
  | _ => none

/-! ## Laws -/

theorem lt_trans {x y z : Binary64} (hxy : x.lt y = true) (hyz : y.lt z = true) :
    x.lt z = true := by
  cases x with
  | nan => cases hxy
  | infinity a => cases y <;> cases z <;> simp_all [lt]
  | finite a m e h =>
    cases y with
    | finite b n f h' =>
      cases z with
      | finite c k g h'' =>
        simp only [lt, decide_eq_true_eq] at *
        omega
      | _ => simp_all [lt]
    | _ => cases z <;> simp_all [lt]

/-- A number that was raised to a least one is below none that the least one is not
below. -/
theorem lt_of_atLeast_lt {least x y : Binary64} (h : (least.atLeast x).lt y = true) :
    least.lt y = true := by
  unfold atLeast at h
  split at h
  · next hlt => exact lt_trans hlt h
  · exact h

end Binary64

end FormAutomation
