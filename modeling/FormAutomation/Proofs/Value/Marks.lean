import FormAutomation.Proofs.Value.Derivation
import FormAutomation.Value.Excess

/-!
# Marks

The marks of a text are found by a search of its own.  How lines end makes no difference to
them, since no line ends inside of what is marked; so it makes none to what a text asks too
much.
-/

namespace FormAutomation.Json

/-! ## Marks -/

theorem marks_nil (quoted : Bool) (skip : Nat) : marks quoted skip [] = [] := by
  cases quoted <;> cases skip <;> rfl

/-- What is passed is not looked at. -/
theorem marks_eq_drop (quoted : Bool) (skip : Nat) (cs : List Char) :
    marks quoted skip cs = marks quoted 0 (cs.drop skip) := by
  induction skip generalizing cs with
  | zero => rfl
  | succ skip ih =>
    cases cs with
    | nil => rw [List.drop_nil, marks_nil, marks_nil]
    | cons c cs => rw [marks, ih, List.drop_succ_cons]

/-- The end of a line is passed, in quotes or not. -/
theorem marks_lineEnd (quoted : Bool) {c : Char} (hc : c = '\r' ∨ c = '\n') (cs : List Char) :
    marks quoted 0 (c :: cs) = marks quoted 0 cs := by
  obtain rfl | rfl := hc <;> cases quoted <;> rfl

theorem wholePart_ne_nil {c : Char} (hc : c.isDigit = true) (cs : List Char) :
    wholePart (c :: cs) ≠ [] := by
  rw [wholePart, if_pos hc]
  split
  · exact List.cons_ne_nil _ _
  · exact List.cons_ne_nil _ _

/-- A number is passed as a whole. -/
theorem marks_digit {c : Char} (hc : c.isDigit = true) (cs : List Char) :
    marks false 0 (c :: cs) = (wholeMark? (c :: cs)).toList
      ++ marks false 0 ((c :: cs).drop ((wholePart (c :: cs)).length + tailWidth (c :: cs))) := by
  have hquote : c ≠ '"' := by
    rintro rfl
    cases hc
  have hpos := List.length_pos_iff.2 (wholePart_ne_nil hc cs)
  obtain ⟨width, hwidth⟩ : ∃ width, (wholePart (c :: cs)).length + tailWidth (c :: cs) = width + 1 :=
    Nat.exists_eq_add_one.2 (by omega)
  simp only [marks, if_neg hquote, if_pos hc, hwidth, Nat.add_sub_cancel, List.drop_succ_cons]
  rw [marks_eq_drop]

/-! ## Ends of lines -/

namespace SameLines

variable {cs ds : List Char}

/-- Four digits are the same. -/
theorem hexQuad?_eq (h : SameLines cs ds) : hexQuad? cs = hexQuad? ds := by
  rcases hcs : hexQuad? cs with _ | q
  · rcases hds : hexQuad? ds with _ | q
    · rfl
    · obtain ⟨four, rest, rfl, -, ⟨-, hn⟩, hread⟩ := exists_of_hexQuad? hds
      obtain ⟨more, rfl, -⟩ := h.of_append_right hn
      rw [hread more] at hcs
      cases hcs
  · obtain ⟨four, rest, rfl, -, ⟨hr, -⟩, hread⟩ := exists_of_hexQuad? hcs
    obtain ⟨more, rfl, -⟩ := h.of_append hr
    exact (hread more).symm

theorem isEmpty_eq (h : SameLines cs ds) : cs.isEmpty = ds.isEmpty := by
  cases h <;> rfl

/-- The other half of a pair is the same. -/
theorem otherHalfFollows_eq (h : SameLines cs ds) (high : Nat) :
    otherHalfFollows high cs = otherHalfFollows high ds := by
  rw [otherHalfFollows, otherHalfFollows, h.isPrefixOf_eq (by decide) (by decide)]
  rcases hescaped : ['\\', 'u'].isPrefixOf ds with _ | _
  · rfl
  rw [← h.isPrefixOf_eq (by decide) (by decide), List.isPrefixOf_iff_prefix] at hescaped
  have hdigits : SameLines (cs.drop 2) (ds.drop 2) := h.drop (by decide) hescaped
  rw [hdigits.hexQuad?_eq]
  rcases hlow : hexQuad? (ds.drop 2) with _ | low
  · rw [Option.any_none, Bool.and_false, Bool.and_false]
  · obtain ⟨four, rest, hfour, hlength, ⟨hr, -⟩, -⟩ := exists_of_hexQuad? (hdigits.hexQuad?_eq ▸ hlow)
    have hbehind : SameLines (cs.drop 6) (ds.drop 6) := by
      have hdrop := hdigits.drop hr (hfour ▸ List.prefix_append four rest)
      rwa [List.drop_drop, List.drop_drop, hlength] at hdrop
    rw [hbehind.isEmpty_eq]

end SameLines

theorem escapeMark_of_ne {c : Char} (hc : c ≠ 'u') (cs : List Char) :
    escapeMark (c :: cs) = (none, if (letterEscape? c).isSome then 1 else 0) := by
  rw [escapeMark]
  exact fun h => hc h

theorem escapeMark_of_none {digits : List Char} (h : hexQuad? digits = none) :
    escapeMark ('u' :: digits) = (none, 0) := by
  simp only [escapeMark, h]

theorem escapeMark_of_some {digits : List Char} {n : Nat} (h : hexQuad? digits = some n) :
    escapeMark ('u' :: digits)
      = if !isHalf n then (none, 5)
        else if otherHalfFollows n (digits.drop 4) then (none, 11) else (some .half, 5) := by
  simp only [escapeMark, h]

/-- Behind half of a pair stands the other. -/
theorem otherHalfFollows_iff {high : Nat} {rest : List Char} :
    otherHalfFollows high rest = true ↔ ['\\', 'u'] <+: rest ∧ high ≤ 0xDBFF ∧ 7 ≤ rest.length
      ∧ ∃ low, hexQuad? (rest.drop 2) = some low ∧ 0xDC00 ≤ low ∧ low ≤ 0xDFFF := by
  have hbehind : (rest.drop 6).isEmpty = false ↔ 7 ≤ rest.length := by
    rw [List.isEmpty_eq_false_iff, Ne, List.drop_eq_nil_iff]
    omega
  rw [← hbehind, ← List.isPrefixOf_iff_prefix]
  simp only [otherHalfFollows, Bool.and_eq_true, decide_eq_true_eq, Bool.not_eq_true',
    Option.any_eq_true, and_assoc]

/-- No line ends in an escape. -/
theorem exists_of_escapeMark (cs : List Char) :
    ∃ word, word <+: cs ∧ word.length = (escapeMark cs).2 ∧ '\r' ∉ word := by
  rcases cs with _ | ⟨c, digits⟩
  · exact ⟨[], List.nil_prefix, rfl, List.not_mem_nil⟩
  by_cases hu : c = 'u'
  · subst hu
    rcases hquad : hexQuad? digits with _ | n
    · rw [escapeMark_of_none hquad]
      exact ⟨[], List.nil_prefix, rfl, List.not_mem_nil⟩
    obtain ⟨four, rest, rfl, hfour, ⟨hr, -⟩, -⟩ := exists_of_hexQuad? hquad
    have hdrop : (four ++ rest).drop 4 = rest := by rw [← hfour, List.drop_left]
    have hshort : ∃ word, word <+: 'u' :: (four ++ rest) ∧ word.length = 5 ∧ '\r' ∉ word :=
      ⟨'u' :: four, by simp, by simp [hfour], by simp [hr]⟩
    rw [escapeMark_of_some hquad, hdrop]
    split
    · exact hshort
    split
    · next hother =>
      -- behind the digits come those of the other half
      obtain ⟨⟨more, rfl⟩, -, -, low, hquad', -⟩ := otherHalfFollows_iff.1 hother
      obtain ⟨four', more, rfl, hfour', ⟨hr', -⟩, -⟩ := exists_of_hexQuad? hquad'
      exact ⟨'u' :: (four ++ '\\' :: 'u' :: four'), by simp, by simp [hfour, hfour'],
        by simp [hr, hr']⟩
    · exact hshort
  · rw [escapeMark_of_ne hu]
    split
    · next hletter =>
      refine ⟨[c], by simp, rfl, ?_⟩
      rw [List.mem_singleton]
      rintro rfl
      cases hletter
    · exact ⟨[], List.nil_prefix, rfl, List.not_mem_nil⟩

namespace SameLines

variable {cs ds : List Char}

/-- The mark of an escape is the same. -/
theorem escapeMark_eq (h : SameLines cs ds) : escapeMark cs = escapeMark ds := by
  cases h with
  | nil => rfl
  | @cons c cs ds h =>
    by_cases hu : c = 'u'
    · subst hu
      rcases hquad : hexQuad? cs with _ | n
      · rw [escapeMark_of_none hquad, escapeMark_of_none (h.hexQuad?_eq ▸ hquad)]
      · obtain ⟨four, rest, rfl, hfour, ⟨hr, -⟩, hread⟩ := exists_of_hexQuad? hquad
        obtain ⟨more, rfl, hmore⟩ := h.of_append hr
        have hdrop : ∀ rest : List Char, (four ++ rest).drop 4 = rest := fun rest => by
          rw [← hfour, List.drop_left]
        rw [escapeMark_of_some hquad, escapeMark_of_some (hread more), hdrop, hdrop,
          hmore.otherHalfFollows_eq]
    · rw [escapeMark_of_ne hu, escapeMark_of_ne hu]
  | single h => rfl
  | double h => rfl

theorem drop_escapeMark (h : SameLines cs ds) :
    SameLines (cs.drop (escapeMark cs).2) (ds.drop (escapeMark ds).2) := by
  obtain ⟨word, hprefix, hlength, hr⟩ := exists_of_escapeMark cs
  rw [← h.escapeMark_eq, ← hlength]
  exact h.drop hr hprefix

theorem fractionWidth_eq (h : SameLines cs ds) : fractionWidth cs = fractionWidth ds := by
  rw [fractionWidth, fractionWidth, h.fractionPart_eq]

theorem drop_fractionWidth (h : SameLines cs ds) :
    SameLines (cs.drop (fractionWidth cs)) (ds.drop (fractionWidth cs)) :=
  h.drop_fractionPart

theorem exponentWidth_eq (h : SameLines cs ds) : exponentWidth cs = exponentWidth ds := by
  rw [exponentWidth, exponentWidth, h.exponentPart_eq]

theorem drop_exponentWidth (h : SameLines cs ds) :
    SameLines (cs.drop (exponentWidth cs)) (ds.drop (exponentWidth cs)) := by
  rw [exponentWidth]
  rcases he : exponentPart cs with _ | ⟨down, digits, width⟩
  · exact h
  · exact h.drop_exponentPart he

theorem tailWidth_eq (h : SameLines cs ds) : tailWidth cs = tailWidth ds := by
  have hwhole := h.drop_wholePart
  have hfraction := hwhole.drop_fractionWidth
  simp only [tailWidth, ← h.wholePart_eq, ← hwhole.fractionWidth_eq, hfraction.exponentWidth_eq]

/-- Behind a number the texts are the same but for the ends of lines. -/
theorem drop_number (h : SameLines cs ds) :
    SameLines (cs.drop ((wholePart cs).length + tailWidth cs))
      (ds.drop ((wholePart ds).length + tailWidth ds)) := by
  rw [← h.wholePart_eq, ← h.tailWidth_eq, tailWidth, ← List.drop_drop, ← List.drop_drop,
    ← List.drop_drop, ← List.drop_drop]
  exact h.drop_wholePart.drop_fractionWidth.drop_exponentWidth

theorem wholeMark?_eq (h : SameLines cs ds) : wholeMark? cs = wholeMark? ds := by
  rw [wholeMark?, wholeMark?, h.tailWidth_eq, h.wholePart_eq]

/-- How lines end makes no difference to the marks. -/
theorem marks_eq (h : SameLines cs ds) (quoted : Bool) : marks quoted 0 cs = marks quoted 0 ds := by
  induction hlength : cs.length using Nat.strong_induction_on generalizing cs ds quoted with
  | _ length ih =>
  subst hlength
  have hshort : ∀ (c : Char) (cs : List Char) (k : Nat), (cs.drop k).length < (c :: cs).length :=
    fun c cs k => by
      rw [List.length_drop, List.length_cons]
      omega
  cases h with
  | nil => rfl
  | @cons c cs ds h =>
    have htail := fun quoted => ih _ (hshort c cs 0) h quoted rfl
    cases quoted with
    | true =>
      rw [marks, marks]
      split_ifs
      · exact htail false
      · rw [marks_eq_drop, marks_eq_drop _ _ ds, h.escapeMark_eq,
          ih _ (hshort c cs _) (h.escapeMark_eq ▸ h.drop_escapeMark) true rfl]
      · exact htail true
    | false =>
      by_cases hdigit : c.isDigit = true
      · have hwidth := List.length_pos_iff.2 (wholePart_ne_nil hdigit cs)
        have hnumber := (h.cons c).drop_number
        rw [marks_digit hdigit, marks_digit hdigit, (h.cons c).wholeMark?_eq,
          ih _ ?_ hnumber false rfl]
        rw [List.length_drop, List.length_cons]
        omega
      · rw [marks, marks, if_neg hdigit, if_neg hdigit, htail, htail]
  | @single cs ds h =>
    rw [marks_lineEnd quoted (.inl rfl), marks_lineEnd quoted (.inr rfl)]
    exact ih _ (hshort '\r' cs 0) h quoted rfl
  | @double cs ds h =>
    rw [marks_lineEnd quoted (.inl rfl), marks_lineEnd quoted (.inr rfl),
      marks_lineEnd quoted (.inr rfl)]
    exact ih _ ((hshort '\n' cs 0).trans (Nat.lt_succ_self _)) h quoted rfl

end SameLines

/-- What a text that writes a value asks too much does not depend on how its lines end. -/
theorem excess?_of_sameLines {cs ds : List Char} {v : Value}
    (h : parse (String.ofList cs) = .ok v) (hs : SameLines cs ds) :
    excess? (String.ofList ds) = excess? (String.ofList cs) := by
  simp only [excess?, h, parse_of_sameLines h hs, String.toList_ofList, hs.marks_eq]

/-! ## What is read -/

section

variable {start n high low : Nat} {four rest more : List Char}

theorem isHalf_iff : isHalf high = true ↔ 0xD800 ≤ high ∧ high ≤ 0xDFFF := by
  simp only [isHalf, Bool.and_eq_true, decide_eq_true_eq]

theorem escapeMark_of_looksFurther (hfour : four.length = 4)
    (hquad : hexQuad? (four ++ '\\' :: 'u' :: more) = some high)
    (hl : LooksFurther high ('\\' :: 'u' :: more)) (hlow : hexQuad? more = some low) :
    (escapeMark ('u' :: (four ++ '\\' :: 'u' :: more))).2 = (pairPoint high low).2 := by
  obtain ⟨hhalf, -, hlength⟩ := hl
  have hdrop : (four ++ '\\' :: 'u' :: more).drop 4 = '\\' :: 'u' :: more := by
    rw [← hfour, List.drop_left]
  have hother : otherHalfFollows high ('\\' :: 'u' :: more) = true
      ↔ 0xDC00 ≤ low ∧ low ≤ 0xDFFF := by
    rw [otherHalfFollows_iff]
    constructor
    · rintro ⟨-, -, -, low', hlow', hin⟩
      obtain rfl : low = low' := Option.some.inj (hlow.symm.trans hlow')
      exact hin
    · exact fun hin => ⟨List.prefix_append ['\\', 'u'] more, hhalf.2, hlength, low, hlow, hin⟩
  rw [escapeMark_of_some hquad, hdrop, isHalf_iff.2 ⟨hhalf.1, by omega⟩, pairPoint,
    if_neg (by decide)]
  by_cases hpair : 0xDC00 ≤ low ∧ low ≤ 0xDFFF
  · rw [if_pos (hother.2 hpair), if_pos hpair]
  · rw [if_neg (mt hother.1 hpair), if_neg hpair]

theorem escapeMark_of_not_looksFurther (hfour : four.length = 4)
    (hquad : hexQuad? (four ++ rest) = some high) (hl : ¬ LooksFurther high rest) :
    (escapeMark ('u' :: (four ++ rest))).2 = 5 := by
  have hdrop : (four ++ rest).drop 4 = rest := by rw [← hfour, List.drop_left]
  rw [escapeMark_of_some hquad, hdrop]
  rcases hsurrogate : isHalf high with _ | _
  · rfl
  · rw [if_neg (by decide), if_neg]
    intro hother
    obtain ⟨hescaped, hhigh, hlength, -⟩ := otherHalfFollows_iff.1 hother
    exact hl ⟨⟨(isHalf_iff.1 hsurrogate).1, hhigh⟩, hescaped, hlength⟩

end

/-- What is marked at an escape takes as much as is read of it. -/
theorem escapeMark_of_readEscape {start n width : Nat} {d : Char} {cs : List Char}
    (h : readEscape start n cs = .ok (d, width)) : (escapeMark cs).2 = width := by
  rcases cs with _ | ⟨c, digits⟩
  · cases h
  by_cases hu : c = 'u'
  · subst hu
    have hlong : ¬ digits.length < 5 := by
      intro hshort
      rw [readEscape, if_pos hshort] at h
      cases h
    rcases hquad : hexQuad? digits with _ | high
    · simp only [readEscape, if_neg hlong, hquad] at h
      cases h
    obtain ⟨four, rest, rfl, hfour, -, -⟩ := exists_of_hexQuad? hquad
    by_cases hl : LooksFurther high rest
    · obtain ⟨more, rfl⟩ := hl.escaped
      simp only [List.cons_append, List.nil_append] at *
      rw [readEscape_of_looksFurther hfour hquad hl] at h
      rcases hlow : hexQuad? more with _ | low
      · simp only [hlow] at h
        cases h
      · simp only [hlow, Except.ok.injEq] at h
        rw [escapeMark_of_looksFurther hfour hquad hl hlow, h]
    · have hrest : rest ≠ [] := by
        rintro rfl
        simp [hfour] at hlong
      rw [readEscape_of_not_looksFurther hfour hrest hquad hl] at h
      cases h
      exact escapeMark_of_not_looksFurther hfour hquad hl
  · rw [readEscape] at h
    · rw [escapeMark_of_ne hu]
      rcases hletter : letterEscape? c with _ | e
      · simp only [hletter] at h
        cases h
      · simp only [hletter] at h
        cases h
        rfl
    · exact hu

end FormAutomation.Json
