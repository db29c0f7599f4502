import FormAutomation.Proofs.Condition.Overflow
import FormAutomation.Proofs.Text.Sigma

/-!
# Containment

Containment looks for one text in lower case in another one in lower case, so that letter case
makes no difference.  A text that occurs in another one as it is should be found all the more,
and it is wherever its capital sigmas end words of the other text as they end words of the text
by itself: if it has none of them, if it stands apart as words do, and otherwise if it is cut out
at the right place.

Cut elsewhere it can be lost, since a capital sigma at the end of a word has a small letter of
its own.
-/

namespace FormAutomation.Condition

open Text

theorem toText_comparand (v : Value) : (comparand v).toText = v.toText := by
  cases v <;> rfl

theorem evaluate_contains (actual expected : Value) :
    evaluate "contains" actual expected = .ok (containsText actual expected) := by
  have hname : evaluate "contains" actual expected = holds .contains actual expected :=
    evaluate_name .contains actual expected
  rw [hname, holds, containsText, containsText, toText_comparand]

/-- A value contains another one if its text does, both in lower case. -/
theorem containsText_iff {actual expected : Value} :
    containsText actual expected = true
      ↔ (lower expected.toText).toList <:+: (lower actual.toText).toList := by
  rw [containsText, occursIn_iff]
  exact ⟨fun ⟨before, after, h⟩ => ⟨before, after, h.symm⟩,
    fun ⟨before, after, h⟩ => ⟨before, after, h.symm⟩⟩

/-- The text of a value stands in that of another one between two parts of it. -/
def StandsBetween (part whole : Value) (before after : List Char) : Prop :=
  whole.toText.toList = before ++ part.toText.toList ++ after

variable {actual expected : Value} {before after : List Char}

/-- A text that occurs in another one and keeps its ends of words is found in it. -/
theorem evaluate_contains_of_keepsWordEnds (h : StandsBetween expected actual before after)
    (hkeeps : KeepsWordEnds before expected.toText.toList after) :
    evaluate "contains" actual expected = .ok true := by
  have hpart := lowerPart_eq_iff.2 hkeeps
  have hinfix : (lower expected.toText).toList <:+: (lower actual.toText).toList := by
    rw [lower, lower, String.toList_ofList, String.toList_ofList, h, lowerAfter_around, hpart]
    exact List.infix_append _ _ _
  rw [evaluate_contains, containsText_iff.2 hinfix]

/-- What is said of texts that occur in the text of a value as they are. -/
structure FindsOccurrences (actual expected : Value) : Prop where
  /-- whether the value contains the other one can always be said -/
  decided : ∃ result, evaluate "contains" actual expected = .ok result
  /-- at the place of an occurrence the lower case of the text is that of the occurrence by
  itself exactly if every capital sigma in it ends a word of the text as it ends one of the
  occurrence -/
  placed : ∀ before after, StandsBetween expected actual before after →
    (lowerPart before.reverse expected.toText.toList after
        = (lower expected.toText).toList
      ↔ KeepsWordEnds before expected.toText.toList after)
  /-- and an occurrence of which this is true is found -/
  found : ∀ before after, StandsBetween expected actual before after →
    KeepsWordEnds before expected.toText.toList after →
      evaluate "contains" actual expected = .ok true
  /-- so one with no capital sigma in it is found wherever it stands -/
  plain : ∀ before after, StandsBetween expected actual before after →
    'Σ' ∉ expected.toText.toList → evaluate "contains" actual expected = .ok true
  /-- and one that stands apart, with no letter right before it or right after it, whatever is
  in it -/
  apart : ∀ before after, StandsBetween expected actual before after →
    ¬ StartsCased before.reverse → ¬ StartsCased after →
      evaluate "contains" actual expected = .ok true

/-- Texts that occur as they are are found, unless a capital sigma ends a word of them alone. -/
theorem findsOccurrences (actual expected : Value) : FindsOccurrences actual expected where
  decided := ⟨_, evaluate_contains actual expected⟩
  placed before after _ := by
    rw [lower, String.toList_ofList]
    exact lowerPart_eq_iff
  found _ _ h hkeeps := evaluate_contains_of_keepsWordEnds h hkeeps
  plain _ _ h hplain :=
    evaluate_contains_of_keepsWordEnds h (keepsWordEnds_of_not_mem hplain)
  apart _ _ h hbefore hafter :=
    evaluate_contains_of_keepsWordEnds h (keepsWordEnds_of_apart hbefore hafter)

/-- A name is not found by its first four letters, the last of which is a capital sigma. -/
theorem not_contains_beginning :
    StandsBetween (.text "ΟΔΥΣ") (.text "ΟΔΥΣΣΕΑΣ") [] ['Σ', 'Ε', 'Α', 'Σ']
      ∧ evaluate "contains" (.text "ΟΔΥΣΣΕΑΣ") (.text "ΟΔΥΣ") = .ok false := by
  refine ⟨rfl, ?_⟩
  decide +kernel

end FormAutomation.Condition
