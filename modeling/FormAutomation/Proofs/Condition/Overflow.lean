import FormAutomation.Condition
import FormAutomation.Proofs.Number.Range

/-!
# Comparisons that fail

Most operators compare the texts of two values, or look whether one is there, and none of
that can fail.  The four that ask which of two values is greater turn both into doubles
first, so they fail on a whole number that has no double, on either side, and on nothing
else.
-/

namespace FormAutomation

/-- A whole number that no double is near. -/
def Value.IsOutOfRange : Value → Prop
  | .int n => Binary64.tooLarge ≤ n.natAbs
  | _ => False

namespace Condition

/-- The operator asks which of two values is greater. -/
def Operator.IsOrder (operator : Operator) : Prop :=
  operator ∈ [.greaterThan, .greaterThanOrEqual, .lessThan, .lessThanOrEqual]

instance (operator : Operator) : Decidable operator.IsOrder :=
  inferInstanceAs (Decidable (operator ∈ _))

variable {v actual expected : Value} {fault : Fault}

theorem number_eq_error_iff : v.number = .error fault ↔ v.IsOutOfRange ∧ fault = .overflow := by
  cases v with
  | int n =>
    rw [Value.number, Value.IsOutOfRange, ← Binary64.ofInt?_eq_none_iff]
    cases Binary64.ofInt? n with
    | none => simp [eq_comm]
    | some x => simp
  | text s =>
    unfold Value.number
    dsimp only
    split <;> simp [Value.IsOutOfRange]
  | _ => simp [Value.number, Value.IsOutOfRange]

theorem not_isOutOfRange_of_number {x? : Option Binary64} (h : v.number = .ok x?) :
    ¬ v.IsOutOfRange := by
  intro hrange
  have herror : v.number = .error .overflow := number_eq_error_iff.2 ⟨hrange, rfl⟩
  rw [h] at herror
  cases herror

theorem isOutOfRange_comparand : (comparand v).IsOutOfRange ↔ v.IsOutOfRange := by
  cases v <;> rfl

/-- Two values cannot be ordered exactly if one of them is out of range. -/
theorem compare_eq_error_iff {order : Binary64 → Binary64 → Bool} :
    compare order actual expected = .error fault
      ↔ (actual.IsOutOfRange ∨ expected.IsOutOfRange) ∧ fault = .overflow := by
  unfold compare
  rcases hleft : actual.number with cause | left
  · obtain ⟨hactual, rfl⟩ := number_eq_error_iff.1 hleft
    simp [hactual, Except.bind, bind, eq_comm]
  -- a side that was turned into a double is in range
  have hactual : ¬ actual.IsOutOfRange := not_isOutOfRange_of_number hleft
  rcases hright : expected.number with cause | right
  · obtain ⟨hexpected, rfl⟩ := number_eq_error_iff.1 hright
    simp [hexpected, Except.bind, bind, eq_comm]
  have hexpected : ¬ expected.IsOutOfRange := not_isOutOfRange_of_number hright
  cases left <;> cases right <;> simp [hactual, hexpected, Except.bind, bind]

/-- How a number has to stand to another one for an operator to hold that orders them. -/
def Operator.order : Operator → Binary64 → Binary64 → Bool
  | .greaterThan => fun x y => y.lt x
  | .greaterThanOrEqual => fun x y => y.le x
  | .lessThan => Binary64.lt
  | .lessThanOrEqual => Binary64.le
  | _ => fun _ _ => false

theorem holds_of_isOrder {operator : Operator} (h : operator.IsOrder) (actual expected : Value) :
    holds operator actual expected = compare operator.order actual (comparand expected) := by
  cases operator with
  | greaterThan | greaterThanOrEqual | lessThan | lessThanOrEqual => rfl
  | _ => exact absurd h (by decide)

/-- A comparison fails exactly if it asks for the order of a value that is out of range. -/
theorem holds_eq_error_iff {operator : Operator} :
    holds operator actual expected = .error fault
      ↔ operator.IsOrder ∧ (actual.IsOutOfRange ∨ expected.IsOutOfRange) ∧ fault = .overflow := by
  by_cases h : operator.IsOrder
  · rw [holds_of_isOrder h, compare_eq_error_iff, isOutOfRange_comparand]
    exact (and_iff_right h).symm
  · have hok : ∃ result, holds operator actual expected = .ok result := by
      cases operator with
      | greaterThan | greaterThanOrEqual | lessThan | lessThanOrEqual =>
        exact absurd (by decide) h
      | _ => exact ⟨_, rfl⟩
    obtain ⟨result, hresult⟩ := hok
    simp [hresult, h]

/-! ## Operators by their names -/

/-- The names of the operators. -/
def supportedNames : List String :=
  ["equals", "notEquals", "contains", "isEmpty", "isNotEmpty", "greaterThan",
   "greaterThanOrEqual", "lessThan", "lessThanOrEqual"]

/-- The names of those that ask which of two values is greater. -/
def orderNames : List String :=
  ["greaterThan", "greaterThanOrEqual", "lessThan", "lessThanOrEqual"]

theorem Operator.name_mem_supportedNames (operator : Operator) :
    operator.name ∈ supportedNames := by
  cases operator <;> decide

theorem Operator.name_mem_orderNames_iff {operator : Operator} :
    operator.name ∈ orderNames ↔ operator.IsOrder := by
  cases operator <;> decide

theorem name_of_ofName? {name : String} {operator : Operator}
    (h : Operator.ofName? name = some operator) : operator.name = name := by
  unfold Operator.ofName? at h
  simpa using List.find?_some h

/-- A name is supported if an operator has it. -/
theorem ofName?_eq_none_iff {name : String} :
    Operator.ofName? name = none ↔ name ∉ supportedNames := by
  constructor
  · intro h hname
    have hall : ∀ name ∈ supportedNames, Operator.ofName? name ≠ none := by decide
    exact hall name hname h
  · intro h
    rcases ho : Operator.ofName? name with _ | operator
    · rfl
    · obtain rfl := name_of_ofName? ho
      exact absurd operator.name_mem_supportedNames h

/-- How the evaluation of the operator of a name ends: it has a result or fails, and there are
two cases in which it fails. -/
structure FailsInTwoCases (name : String) (actual expected : Value) : Prop where
  /-- there is no operator of the name, and this is what is said to be unsupported -/
  unsupported_iff : ∀ other, evaluate name actual expected = .error (.unsupported other)
    ↔ name ∉ supportedNames ∧ other = name
  /-- or the order is asked for of a whole number that is out of range, on either side, whatever
  is on the other one -/
  overflow_iff : evaluate name actual expected = .error .overflow
    ↔ name ∈ orderNames ∧ (actual.IsOutOfRange ∨ expected.IsOutOfRange)
  /-- in all other cases there is a result -/
  decided_iff : (∃ result, evaluate name actual expected = .ok result)
    ↔ name ∈ supportedNames
      ∧ ¬ (name ∈ orderNames ∧ (actual.IsOutOfRange ∨ expected.IsOutOfRange))

theorem evaluate_name (operator : Operator) (actual expected : Value) :
    evaluate operator.name actual expected = holds operator actual expected := by
  rw [evaluate, Operator.ofName?_name]

/-- The evaluation of an operator by its name fails in two cases. -/
theorem failsInTwoCases (name : String) (actual expected : Value) :
    FailsInTwoCases name actual expected := by
  rcases ho : Operator.ofName? name with _ | operator
  · have hname := ofName?_eq_none_iff.1 ho
    have hsubset : orderNames ⊆ supportedNames := by decide
    have horder : name ∉ orderNames := fun h => hname (hsubset h)
    have hfails : evaluate name actual expected = .error (.unsupported name) := by
      rw [evaluate, ho]
    refine ⟨fun other => ?_, ?_, ?_⟩
    · simp [hfails, hname, eq_comm]
    · simp [hfails, horder]
    · simp [hfails, hname]
  · obtain rfl := name_of_ofName? ho
    have hfault : ∀ fault, holds operator actual expected = .error fault
        ↔ operator.IsOrder ∧ (actual.IsOutOfRange ∨ expected.IsOutOfRange) ∧ fault = .overflow :=
      fun _ => holds_eq_error_iff
    have hname := operator.name_mem_supportedNames
    refine ⟨fun other => ?_, ?_, ?_⟩
    · simp [evaluate_name, hfault, hname]
    · simp [evaluate_name, hfault, Operator.name_mem_orderNames_iff]
    · rw [evaluate_name, Operator.name_mem_orderNames_iff]
      rcases hholds : holds operator actual expected with fault | result
      · obtain ⟨ho, hrange, -⟩ := (hfault fault).1 hholds
        simp [ho, hrange]
      · refine iff_of_true ⟨result, rfl⟩ ⟨hname, fun ⟨ho, hrange⟩ => ?_⟩
        have herror := (hfault .overflow).2 ⟨ho, hrange, rfl⟩
        rw [hholds] at herror
        cases herror

end Condition

end FormAutomation
