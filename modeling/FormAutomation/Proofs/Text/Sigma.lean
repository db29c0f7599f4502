import FormAutomation.Proofs.Text.Case
import Mathlib.Data.List.TakeWhile

/-!
# Parts of texts in lower case

A text is put into lower case as a whole, and what becomes of a character is settled by the
character itself, with one exception: a capital sigma has a form of its own at the end of a word.
So the lower case of a part of a text stands in the lower case of the text, at the place of the
part, exactly if every capital sigma of the part ends a word of the text as it ends one of the
part, or ends none in either.
-/

namespace FormAutomation.Text

/-! ## Ends of words -/

/-- A letter that has a case comes first, marks that are looked through aside. -/
def StartsCased (cs : List Char) : Prop :=
  ∃ marks letter rest, cs = marks ++ letter :: rest
    ∧ (∀ mark ∈ marks, caseIgnorableRanges.contains mark = true)
    ∧ caseIgnorableRanges.contains letter = false ∧ casedRanges.contains letter = true

/-- A letter between these texts ends a word: there is one before it and none after it. -/
def EndsWord (before after : List Char) : Prop :=
  StartsCased before.reverse ∧ ¬ StartsCased after

/-- Every capital sigma of a part of a text, with what stands before and after the part, ends a
word of the text exactly if it ends one of the part. -/
def KeepsWordEnds (before part after : List Char) : Prop :=
  ∀ front back, part = front ++ 'Σ' :: back →
    (EndsWord (before ++ front) (back ++ after) ↔ EndsWord front back)

theorem nextIsCased_iff {cs : List Char} : nextIsCased cs = true ↔ StartsCased cs := by
  have hsplit : cs.takeWhile caseIgnorableRanges.contains
      ++ cs.dropWhile caseIgnorableRanges.contains = cs := List.takeWhile_append_dropWhile
  constructor
  · intro h
    unfold nextIsCased at h
    rcases hdrop : cs.dropWhile caseIgnorableRanges.contains with _ | ⟨letter, rest⟩
    · rw [hdrop] at h
      cases h
    · rw [hdrop] at h hsplit
      have hletter := List.head?_dropWhile_not caseIgnorableRanges.contains cs
      rw [hdrop] at hletter
      exact ⟨_, letter, rest, hsplit.symm, fun mark hmark => List.mem_takeWhile_imp hmark,
        by simpa using hletter, h⟩
  · rintro ⟨marks, letter, rest, rfl, hmarks, hignored, hcased⟩
    have hdrop : (marks ++ letter :: rest).dropWhile caseIgnorableRanges.contains
        = letter :: rest := by
      rw [List.dropWhile_append_of_pos hmarks, List.dropWhile_cons_of_neg (by simp [hignored])]
    rw [nextIsCased, hdrop]
    exact hcased

/-- What stands behind marks alone comes first. -/
theorem startsCased_append_of_marks {marks rest : List Char}
    (h : ∀ mark ∈ marks, caseIgnorableRanges.contains mark = true) :
    StartsCased (marks ++ rest) ↔ StartsCased rest := by
  rw [← nextIsCased_iff, ← nextIsCased_iff, nextIsCased, List.dropWhile_append_of_pos h]
  rfl

/-- What stands behind a character that is not looked through does not matter. -/
theorem startsCased_append_of_letter {marks rest more : List Char} {letter : Char}
    (hmarks : ∀ mark ∈ marks, caseIgnorableRanges.contains mark = true)
    (hletter : caseIgnorableRanges.contains letter = false) :
    StartsCased (marks ++ letter :: rest ++ more) ↔ StartsCased (marks ++ letter :: rest) := by
  have hdrop : ∀ rest : List Char,
      (marks ++ letter :: rest).dropWhile caseIgnorableRanges.contains = letter :: rest := by
    intro rest
    rw [List.dropWhile_append_of_pos hmarks, List.dropWhile_cons_of_neg (by simp [hletter])]
  rw [← nextIsCased_iff, ← nextIsCased_iff, List.append_assoc, List.cons_append, nextIsCased,
    nextIsCased, hdrop, hdrop]

/-- What does not start with a letter can be added to a text without one more letter coming
first. -/
theorem startsCased_append_iff {cs more : List Char} (h : ¬ StartsCased more) :
    StartsCased (cs ++ more) ↔ StartsCased cs := by
  have hsplit : cs.takeWhile caseIgnorableRanges.contains
      ++ cs.dropWhile caseIgnorableRanges.contains = cs := List.takeWhile_append_dropWhile
  have hmarks : ∀ mark ∈ cs.takeWhile caseIgnorableRanges.contains,
      caseIgnorableRanges.contains mark = true := fun mark hmark => List.mem_takeWhile_imp hmark
  rcases hdrop : cs.dropWhile caseIgnorableRanges.contains with _ | ⟨letter, rest⟩
  · rw [hdrop, List.append_nil] at hsplit
    rw [hsplit] at hmarks
    refine iff_of_false (fun hcs => h ((startsCased_append_of_marks hmarks).1 hcs)) fun hcs => ?_
    rw [← List.append_nil cs, startsCased_append_of_marks hmarks] at hcs
    obtain ⟨marks, letter, rest, hnil, -⟩ := hcs
    simp at hnil
  · have hletter := List.head?_dropWhile_not caseIgnorableRanges.contains cs
    rw [hdrop] at hletter hsplit
    rw [← hsplit]
    exact startsCased_append_of_letter hmarks (by simpa using hletter)

/-- A part of a text that stands apart, with no letter right before it or right after it, keeps
its ends of words. -/
theorem keepsWordEnds_of_apart {before part after : List Char}
    (hbefore : ¬ StartsCased before.reverse) (hafter : ¬ StartsCased after) :
    KeepsWordEnds before part after := by
  intro front back _
  unfold EndsWord
  rw [List.reverse_append, startsCased_append_iff hbefore, startsCased_append_iff hafter]

theorem keepsWordEnds_of_not_mem {before part after : List Char} (h : 'Σ' ∉ part) :
    KeepsWordEnds before part after := by
  rintro front back rfl
  exact absurd (List.mem_append_right _ List.mem_cons_self) h

/-! ## Parts -/

/-- The lower case of a part of a text, with what stands before it, its last character first,
and what stands after it. -/
def lowerPart (before : List Char) : List Char → List Char → List Char
  | [], _ => []
  | c :: cs, after => lowerImage before c (cs ++ after) ++ lowerPart (c :: before) cs after

/-- The lower case of a text is that of its parts. -/
theorem lowerAfter_append_part (before cs after : List Char) :
    lowerAfter before (cs ++ after)
      = lowerPart before cs after ++ lowerAfter (cs.reverse ++ before) after := by
  induction cs generalizing before with
  | nil => rfl
  | cons c cs ih =>
    rw [List.cons_append, lowerAfter_cons, ih, lowerPart, List.append_assoc, List.reverse_cons,
      List.append_assoc]
    rfl

theorem lowerPart_nil (before cs : List Char) : lowerPart before cs [] = lowerAfter before cs := by
  have h := lowerAfter_append_part before cs []
  rw [List.append_nil] at h
  rw [h, lowerAfter, List.append_nil]

/-- A capital sigma at the end of a word has a form of its own. -/
theorem lowerImage_sigma (before after : List Char) [Decidable (EndsWord before after)] :
    lowerImage before.reverse 'Σ' after = if EndsWord before after then ['ς'] else ['σ'] := by
  have hends : (nextIsCased before.reverse && !nextIsCased after) = true
      ↔ EndsWord before after := by
    rw [EndsWord, ← nextIsCased_iff, ← nextIsCased_iff, Bool.and_eq_true, Bool.not_eq_true',
      Bool.not_eq_true]
  rw [lowerImage, if_pos (beq_self_eq_true _)]
  by_cases h : EndsWord before after
  · rw [if_pos h, if_pos (hends.2 h)]
  · rw [if_neg h, if_neg fun hc => h (hends.1 hc)]

theorem length_lowerImage (before before' after after' : List Char) (c : Char) :
    (lowerImage before c after).length = (lowerImage before' c after').length := by
  unfold lowerImage
  split
  · split <;> split <;> rfl
  · rfl

/-- A character becomes the same in two places unless it is a capital sigma that ends a word in
one of them only. -/
theorem lowerImage_eq_iff {before before' after after' : List Char} {c : Char} :
    lowerImage before.reverse c after = lowerImage before'.reverse c after'
      ↔ (c = 'Σ' → (EndsWord before after ↔ EndsWord before' after')) := by
  classical
  by_cases hc : c = 'Σ'
  · subst hc
    rw [lowerImage_sigma, lowerImage_sigma]
    by_cases h : EndsWord before after <;> by_cases h' : EndsWord before' after' <;> simp [h, h']
  · have hne : ¬ (c == 'Σ') = true := by simpa using hc
    simp only [lowerImage, if_neg hne, hc, false_implies]

/-- A part of a text that was read up to some place is in lower case what it is by itself exactly
if the capital sigmas from there on end words alike. -/
theorem lowerPart_eq_iff_from {before rest after : List Char} (read : List Char) :
    lowerPart (read.reverse ++ before.reverse) rest after = lowerPart read.reverse rest []
      ↔ ∀ front back, rest = front ++ 'Σ' :: back →
        (EndsWord (before ++ (read ++ front)) (back ++ after) ↔ EndsWord (read ++ front) back) := by
  induction rest generalizing read with
  | nil => simp [lowerPart]
  | cons c rest ih =>
    have hnext := ih (read ++ [c])
    rw [List.reverse_append, List.reverse_singleton, List.singleton_append, List.cons_append]
      at hnext
    have himage : lowerImage (read.reverse ++ before.reverse) c (rest ++ after)
          = lowerImage read.reverse c (rest ++ [])
        ↔ (c = 'Σ' → (EndsWord (before ++ read) (rest ++ after) ↔ EndsWord read rest)) := by
      rw [← List.reverse_append, lowerImage_eq_iff, List.append_nil]
    rw [lowerPart, lowerPart, List.append_eq_append_iff_of_size_eq_left
      (length_lowerImage _ _ _ _ c), himage, hnext]
    constructor
    · rintro ⟨hhead, htail⟩ front back hsplit
      -- the sigma is the first character, or one of the rest
      rcases front with _ | ⟨d, front⟩
      · obtain ⟨rfl, rfl⟩ := List.cons.inj hsplit
        simpa using hhead rfl
      · obtain ⟨rfl, rfl⟩ := List.cons.inj hsplit
        simpa using htail front back rfl
    · intro h
      refine ⟨?_, ?_⟩
      · rintro rfl
        simpa using h [] rest rfl
      · rintro front back rfl
        simpa using h (c :: front) back rfl

/-- A part of a text is in lower case what it is by itself exactly if it keeps its ends of
words. -/
theorem lowerPart_eq_iff {before part after : List Char} :
    lowerPart before.reverse part after = lowerAfter [] part
      ↔ KeepsWordEnds before part after := by
  rw [← lowerPart_nil]
  exact lowerPart_eq_iff_from []

/-- The lower case of a text, cut around a part of it. -/
theorem lowerAfter_around (before part after : List Char) :
    lowerAfter [] (before ++ part ++ after)
      = lowerPart [] before (part ++ after) ++ lowerPart before.reverse part after
        ++ lowerAfter (part.reverse ++ before.reverse) after := by
  rw [List.append_assoc, lowerAfter_append_part, lowerAfter_append_part, List.append_nil,
    List.append_assoc]

end FormAutomation.Text
