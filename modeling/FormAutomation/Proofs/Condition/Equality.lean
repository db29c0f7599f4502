import FormAutomation.Proofs.Condition.Overflow
import FormAutomation.Proofs.Number.Exact

/-!
# Equality of numbers

Equality compares texts, and nothing is lost by that where numbers are compared with whole
numbers.  Neither side is rounded: a double equals the whole number that it is, on whichever
side it stands and however large the two are, and no other one; what is infinite or no number
equals none.
-/

namespace FormAutomation.Condition

/-- Two values are equal if their texts are. -/
theorem evaluate_equals (actual expected : Value) :
    evaluate "equals" actual expected
      = .ok (decide (actual.toText = (comparand expected).toText)) :=
  evaluate_name .equals actual expected

/-- A whole number equals exactly the numbers that it is. -/
structure EqualsExactly (n : Int) : Prop where
  /-- doubles that are finite and whose exact value it is -/
  double : ∀ x : Binary64,
    evaluate "equals" (.float x) (.int n) = .ok (decide (x.value? = some (n : ℚ)))
  /-- with the sides exchanged as well -/
  ofDouble : ∀ x : Binary64,
    evaluate "equals" (.int n) (.float x) = .ok (decide (x.value? = some (n : ℚ)))
  /-- of the whole numbers itself alone -/
  whole : ∀ m : Int, evaluate "equals" (.int m) (.int n) = .ok (decide (m = n))

/-- Whole numbers are compared without loss. -/
theorem equalsExactly (n : Int) : EqualsExactly n where
  double x := by
    simp only [evaluate_equals, comparand, Value.toText_float_eq_int_iff]
  ofDouble x := by
    have hsides : (Value.int n).toText = (Value.float x).toText ↔ x.value? = some (n : ℚ) := by
      rw [eq_comm, Value.toText_float_eq_int_iff]
    simp only [evaluate_equals, comparand, hsides]
  whole m := by
    simp only [evaluate_equals, comparand, Value.toText_int_inj]

/-- Ten to the 22nd is a double, and so is zero with a minus; the successor of `2 ^ 53` is none. -/
example :
    evaluate "equals" (.float (.ofDecimal false 1 22)) (.int 10000000000000000000000) = .ok true
      ∧ evaluate "equals" (.int 0) (.float (.zero true)) = .ok true
      ∧ evaluate "equals" (.int (2 ^ 53 + 1)) (.float (.ofNat (2 ^ 53))) = .ok false := by
  decide +kernel

end FormAutomation.Condition
