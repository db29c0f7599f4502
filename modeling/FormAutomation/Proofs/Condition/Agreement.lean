import FormAutomation.Proofs.Condition.Overflow
import FormAutomation.Proofs.Number.Exact
import FormAutomation.Proofs.Number.Order

/-!
# How operators agree

What the operators of conditions say of two values fits together.  One of each pair of opposites
holds, and what is empty equals nothing.  The four that order two values do so as their numbers
are ordered: of two numbers one is greater, or the other, or neither, and the operators that
allow for equality are the opposites of those that do not.  Nothing is ordered that counts as
no number, however that is spelled; and which side a value is on makes no difference, except to
null, which is no number on one side and the empty text on the other.
-/

namespace FormAutomation

/-! ## Empty texts -/

theorem Layout.decimalText_ne_nil (layout : Layout) (d : Decimal) : layout.decimalText d ≠ [] := by
  have hdigits : Decimal.digitsOf d.digits ≠ [] := (isNumeral_digitsOf _).ne_nil
  unfold decimalText
  dsimp only
  split_ifs
  · -- an exponent follows the first digit
    rcases h : Decimal.digitsOf d.digits with _ | ⟨first, _ | ⟨second, rest⟩⟩
    · exact absurd h hdigits
    · exact List.cons_ne_nil _ _
    · exact List.cons_ne_nil _ _
  all_goals simp

theorem Layout.write_ne_nil {layout : Layout} (hnan : layout.nan ≠ "")
    (hinfinity : layout.infinity ≠ "") (x : Binary64) : layout.write x ≠ [] := by
  cases x with
  | nan => simpa [write] using hnan
  | infinity negative => exact List.append_ne_nil_of_right_ne_nil _ (by simpa using hinfinity)
  | finite negative m e h =>
    exact List.append_ne_nil_of_right_ne_nil _ (layout.decimalText_ne_nil _)

/-- Only null and the empty text become nothing in a text. -/
theorem Value.toText_eq_empty_iff {v : Value} :
    v.toText = "" ↔ v = .null ∨ v = .text "" := by
  cases v with
  | null => simp [toText]
  | bool b => cases b <;> simp [toText, Json.boolText]
  | int n => simp [toText, intText_ne_nil]
  | float x =>
    have hplain : Layout.plain.write x ≠ [] := Layout.write_ne_nil (by decide) (by decide) x
    simp only [toText, doubleText]
    split
    · simp [intText_ne_nil]
    · simp [hplain]
  | text s => simp [toText]
  | list items => simp [toText, compact, Json.write]
  | object fields => simp [toText, compact, Json.write]

/-! ## What counts as a number -/

namespace Value

/-- The value counts as a number in a comparison. -/
def IsNumeric (v : Value) : Prop :=
  ∃ x, v.number = .ok (some x)

/-- The value is what is no number: the double, or a text that spells it, with white space
around it, a sign in front of it and letters of either case. -/
inductive SpellsNaN : Value → Prop where
  /-- the double -/
  | double : SpellsNaN (.float .nan)
  /-- a text -/
  | text {s : String}
      (h : (Numeral.sign (Numeral.body (Text.trimWhile Text.isBlank s.toList))).2.map Char.toLower
        = ['n', 'a', 'n']) :
      SpellsNaN (.text s)

theorem not_isNaN_of_ordered {x y : Binary64} (h : Condition.ordered x = some y) :
    y.isNaN = false := by
  unfold Condition.ordered at h
  split at h
  · cases h
  · next hx =>
    cases h
    exact Bool.eq_false_iff.2 hx

/-- What a value counts as is a number. -/
theorem not_isNaN_of_number {v : Value} {x : Binary64} (h : v.number = .ok (some x)) :
    x.isNaN = false := by
  cases v with
  | bool b =>
    obtain rfl := Option.some.inj (Except.ok.inj h)
    exact Binary64.isNaN_ofRatio _ _ _
  | int n =>
    rcases hn : Binary64.ofInt? n with _ | y
    · simp only [number, hn] at h
      cases h
    · simp only [number, hn] at h
      obtain rfl := Option.some.inj (Except.ok.inj h)
      exact Binary64.isNaN_of_ofInt? hn
  | float y => exact not_isNaN_of_ordered (Except.ok.inj h)
  | text s =>
    unfold number at h
    dsimp only at h
    split at h
    · obtain rfl := Option.some.inj (Except.ok.inj h)
      rfl
    · obtain ⟨y, -, hy⟩ := Option.bind_eq_some_iff.1 (Except.ok.inj h)
      exact not_isNaN_of_ordered hy
  | _ => cases h

/-- Letters of either case spell it, with a sign in front. -/
example : SpellsNaN (.text " -NaN\n") := .text (by decide)

theorem number_of_spellsNaN {v : Value} (h : v.SpellsNaN) : v.number = .ok none := by
  cases h with
  | double => rfl
  | @text s h =>
    have hne : (Text.trimWhile Text.isBlank s.toList).isEmpty = false := by
      rw [Bool.eq_false_iff]
      intro hempty
      rw [List.isEmpty_iff.1 hempty] at h
      exact absurd h (by decide)
    have hread : Numeral.readDouble (Text.trimWhile Text.isBlank s.toList) = some .nan := by
      have hword : ∀ negative, Numeral.word? negative
          (Numeral.sign (Numeral.body (Text.trimWhile Text.isBlank s.toList))).2 = some .nan := by
        intro negative
        rw [Numeral.word?, h]
        rfl
      simp only [Numeral.readDouble, hword]
    simp only [number, hne, hread]
    rfl

end Value

namespace Condition

/-! ## The four operators that order values -/

/-- The operator that says the same with the sides exchanged. -/
def Operator.mirrored : Operator → Operator
  | .greaterThan => .lessThan
  | .greaterThanOrEqual => .lessThanOrEqual
  | .lessThan => .greaterThan
  | .lessThanOrEqual => .greaterThanOrEqual
  | operator => operator

variable {v actual expected : Value} {operator : Operator}

theorem compare_of_number {order : Binary64 → Binary64 → Bool} {x y : Binary64}
    (hx : actual.number = .ok (some x)) (hy : expected.number = .ok (some y)) :
    compare order actual expected = .ok (order x y) := by
  simp only [compare, hx, hy]
  rfl

/-- What is no number stands in no order. -/
theorem compare_of_not_isNumeric {order : Binary64 → Binary64 → Bool} {result : Bool}
    (h : compare order actual expected = .ok result)
    (hnot : ¬ actual.IsNumeric ∨ ¬ expected.IsNumeric) : result = false := by
  unfold compare at h
  rcases hx : actual.number with fault | _ | x
  · rw [hx] at h
    cases h
  · rcases hy : expected.number with fault | y?
    · rw [hx, hy] at h
      cases h
    · rw [hx, hy] at h
      cases h
      rfl
  · rcases hy : expected.number with fault | _ | y
    · rw [hx, hy] at h
      cases h
    · rw [hx, hy] at h
      cases h
      rfl
    · exact absurd ⟨y, hy⟩ (hnot.resolve_left fun hnot => hnot ⟨x, hx⟩)

/-- With the sides exchanged two values stand in the opposite order. -/
theorem compare_flip (order : Binary64 → Binary64 → Bool) (actual expected : Value) :
    compare (fun y x => order x y) expected actual = compare order actual expected := by
  unfold compare
  rcases hx : actual.number with fault | x?
  · rcases hy : expected.number with fault' | y?
    · -- there is only one way to fail
      obtain ⟨-, rfl⟩ := number_eq_error_iff.1 hx
      obtain ⟨-, rfl⟩ := number_eq_error_iff.1 hy
      rfl
    · rfl
  · rcases hy : expected.number with fault' | y?
    · rfl
    · cases x? <;> cases y? <;> rfl

theorem comparand_of_ne_null (h : v ≠ .null) : comparand v = v := by
  cases v with
  | null => exact absurd rfl h
  | _ => rfl

/-- The mirrored operator says the same of values that change sides, neither being null. -/
theorem holds_mirrored (h : operator.IsOrder) (ha : actual ≠ .null) (he : expected ≠ .null) :
    holds operator.mirrored expected actual = holds operator actual expected := by
  have hmirrored : operator.mirrored.IsOrder := by
    cases operator with
    | greaterThan | greaterThanOrEqual | lessThan | lessThanOrEqual => decide
    | _ => exact absurd h (by decide)
  have horder : operator.mirrored.order = fun y x => operator.order x y := by
    cases operator with
    | greaterThan | greaterThanOrEqual | lessThan | lessThanOrEqual => rfl
    | _ => exact absurd h (by decide)
  rw [holds_of_isOrder hmirrored, holds_of_isOrder h, comparand_of_ne_null ha,
    comparand_of_ne_null he, horder, compare_flip]

/-! ## All operators together -/

/-- What the operators say of two values, none of them failing, fits together. -/
structure OperatorsAgree (actual expected : Value) (verdict : Operator → Bool) : Prop where
  /-- the two that compare texts are opposites -/
  notEquals : verdict .notEquals = !verdict .equals
  /-- and so are the two that ask whether a value is there -/
  isNotEmpty : verdict .isNotEmpty = !verdict .isEmpty
  /-- what is not there equals null -/
  isEmpty : verdict .isEmpty = true ↔ holds .equals actual .null = .ok true
  /-- of two numbers one is greater, or the other, or each is at least the other -/
  exactlyOne : actual.IsNumeric → (comparand expected).IsNumeric →
    [verdict .greaterThan, verdict .lessThan,
      verdict .greaterThanOrEqual && verdict .lessThanOrEqual].count true = 1
  /-- one is greater if it is not at most the other -/
  greaterThan : actual.IsNumeric → (comparand expected).IsNumeric →
    verdict .greaterThan = !verdict .lessThanOrEqual
  /-- it is less if it is not at least the other -/
  lessThan : actual.IsNumeric → (comparand expected).IsNumeric →
    verdict .lessThan = !verdict .greaterThanOrEqual
  /-- what counts as no number is not ordered -/
  unordered : ¬ actual.IsNumeric ∨ ¬ (comparand expected).IsNumeric →
    ∀ operator, operator.IsOrder → verdict operator = false
  /-- what spells no number counts as none -/
  spelled : ∀ v : Value, v.SpellsNaN → ¬ v.IsNumeric
  /-- the mirrored operators say the same of values that change sides, neither being null -/
  mirrored : actual ≠ .null → expected ≠ .null → ∀ operator, operator.IsOrder →
    holds operator.mirrored expected actual = .ok (verdict operator)

/-- What operators say of two numbers is how these are ordered. -/
theorem verdict_of_number {verdict : Operator → Bool} {x y : Binary64}
    (h : ∀ operator, holds operator actual expected = .ok (verdict operator))
    (hx : actual.number = .ok (some x)) (hy : (comparand expected).number = .ok (some y))
    (ho : operator.IsOrder) : verdict operator = operator.order x y := by
  have hholds := h operator
  rw [holds_of_isOrder ho, compare_of_number hx hy] at hholds
  exact (Except.ok.inj hholds).symm

/-- The operators agree on any two values on which none of them fails. -/
theorem operatorsAgree_of_holds {verdict : Operator → Bool}
    (h : ∀ operator, holds operator actual expected = .ok (verdict operator)) :
    OperatorsAgree actual expected verdict where
  notEquals := by
    rw [← Except.ok.inj (h .equals), ← Except.ok.inj (h .notEquals)]
    rfl
  isNotEmpty := by
    rw [← Except.ok.inj (h .isEmpty), ← Except.ok.inj (h .isNotEmpty)]
  isEmpty := by
    rw [← Except.ok.inj (h .isEmpty)]
    have hequals : holds .equals actual .null = .ok (actual.toText == "") := rfl
    rw [hequals, Except.ok.injEq, beq_iff_eq, Value.toText_eq_empty_iff]
    cases actual <;> simp [isBlankValue]
  exactlyOne := by
    rintro ⟨x, hx⟩ ⟨y, hy⟩
    rw [verdict_of_number h hx hy (by decide), verdict_of_number h hx hy (by decide),
      verdict_of_number h hx hy (by decide), verdict_of_number h hx hy (by decide)]
    exact Binary64.count_lt_lt_le (Value.not_isNaN_of_number hx) (Value.not_isNaN_of_number hy)
  greaterThan := by
    rintro ⟨x, hx⟩ ⟨y, hy⟩
    rw [verdict_of_number h hx hy (by decide), verdict_of_number h hx hy (by decide)]
    exact Binary64.lt_eq_not_le (Value.not_isNaN_of_number hy) (Value.not_isNaN_of_number hx)
  lessThan := by
    rintro ⟨x, hx⟩ ⟨y, hy⟩
    rw [verdict_of_number h hx hy (by decide), verdict_of_number h hx hy (by decide)]
    exact Binary64.lt_eq_not_le (Value.not_isNaN_of_number hx) (Value.not_isNaN_of_number hy)
  unordered := by
    intro hnot operator ho
    have hholds := h operator
    rw [holds_of_isOrder ho] at hholds
    exact compare_of_not_isNumeric hholds hnot
  spelled := by
    rintro v hv ⟨x, hx⟩
    rw [Value.number_of_spellsNaN hv] at hx
    cases hx
  mirrored := by
    intro ha he operator ho
    rw [holds_mirrored ho ha he]
    exact h operator

/-- The operators that hold between a ten in Arabic digits and nine. -/
def holdsOfTen (operator : Operator) : Bool :=
  decide (operator ∈ [.notEquals, .isNotEmpty, .greaterThan, .greaterThanOrEqual])

/-- They are ordered as numbers and not as texts. -/
theorem operatorsAgree_of_holds_ten :
    (∀ operator, holds operator (.text " ١٠ ") (.int 9) = .ok (holdsOfTen operator))
      ∧ OperatorsAgree (.text " ١٠ ") (.int 9) holdsOfTen := by
  have hholds : ∀ operator, holds operator (.text " ١٠ ") (.int 9) = .ok (holdsOfTen operator) := by
    intro operator
    cases operator <;> decide +kernel
  exact ⟨hholds, operatorsAgree_of_holds hholds⟩

end Condition

end FormAutomation
