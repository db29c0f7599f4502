import FormAutomation.Value.Reader

/-!
# Ends of lines

The end of a line may be written as one character or as two, and JSON does not mind.  Between
its tokens any white space will do, and inside a token no line can end: a quoted text with the
end of a line in it is none.  So what stands at the head of a text is read alike if the ends of
the lines are written otherwise, and what is left differs in the same way.
-/

namespace FormAutomation.Json

/-- The second text is the first with some ends of lines written as one character. -/
inductive SameLines : List Char → List Char → Prop where
  /-- there is nothing -/
  | nil : SameLines [] []
  /-- a character is itself -/
  | cons (c : Char) {cs ds : List Char} (h : SameLines cs ds) : SameLines (c :: cs) (c :: ds)
  /-- a line ends with a return -/
  | single {cs ds : List Char} (h : SameLines cs ds) : SameLines ('\r' :: cs) ('\n' :: ds)
  /-- a line ends with a return and a feed -/
  | double {cs ds : List Char} (h : SameLines cs ds) : SameLines ('\r' :: '\n' :: cs) ('\n' :: ds)

namespace SameLines

variable {cs ds : List Char}

theorem refl (cs : List Char) : SameLines cs cs := by
  induction cs with
  | nil => exact .nil
  | cons c cs ih => exact .cons c ih

theorem length_le (h : SameLines cs ds) : ds.length ≤ cs.length := by
  induction h with
  | nil => exact Nat.le_refl 0
  | cons c h ih => exact Nat.succ_le_succ ih
  | single h ih => exact Nat.succ_le_succ ih
  | double h ih => exact Nat.succ_le_succ (Nat.le_succ_of_le ih)

theorem of_nil (h : SameLines [] ds) : ds = [] := by
  cases h
  rfl

theorem of_cons {c : Char} (hc : c ≠ '\r') (h : SameLines (c :: cs) ds) :
    ∃ more, ds = c :: more ∧ SameLines cs more := by
  cases h with
  | cons c h => exact ⟨_, rfl, h⟩
  | single h => exact absurd rfl hc
  | double h => exact absurd rfl hc

theorem of_cons_right {c : Char} (hc : c ≠ '\n') (h : SameLines cs (c :: ds)) :
    ∃ more, cs = c :: more ∧ SameLines more ds := by
  cases h with
  | cons c h => exact ⟨_, rfl, h⟩
  | single h => exact absurd rfl hc
  | double h => exact absurd rfl hc

theorem ne_cons {c : Char} (hc : c ≠ '\n') (hne : ∀ more, cs ≠ c :: more)
    (h : SameLines cs ds) (more : List Char) : ds ≠ c :: more := by
  rintro rfl
  obtain ⟨more, rfl, -⟩ := h.of_cons_right hc
  exact hne more rfl

/-- Where no line ends the texts are the same. -/
theorem of_append {word : List Char} (hw : '\r' ∉ word) (h : SameLines (word ++ cs) ds) :
    ∃ more, ds = word ++ more ∧ SameLines cs more := by
  induction word generalizing ds with
  | nil => exact ⟨ds, rfl, h⟩
  | cons c word ih =>
    obtain ⟨hc, hw⟩ := not_or.1 (mt List.mem_cons.2 hw)
    obtain ⟨tail, rfl, htail⟩ := h.of_cons (Ne.symm hc)
    obtain ⟨more, rfl, hmore⟩ := ih hw htail
    exact ⟨more, rfl, hmore⟩

theorem of_append_right {word : List Char} (hw : '\n' ∉ word) (h : SameLines cs (word ++ ds)) :
    ∃ more, cs = word ++ more ∧ SameLines more ds := by
  induction word generalizing cs with
  | nil => exact ⟨cs, rfl, h⟩
  | cons c word ih =>
    obtain ⟨hc, hw⟩ := not_or.1 (mt List.mem_cons.2 hw)
    obtain ⟨tail, rfl, htail⟩ := h.of_cons_right (Ne.symm hc)
    obtain ⟨more, rfl, hmore⟩ := ih hw htail
    exact ⟨more, rfl, hmore⟩

theorem ne_nil (hcs : cs ≠ []) (h : SameLines cs ds) : ds ≠ [] := by
  rintro rfl
  cases h
  exact hcs rfl

theorem isPrefixOf_eq {word : List Char} (hr : '\r' ∉ word) (hn : '\n' ∉ word)
    (h : SameLines cs ds) : word.isPrefixOf cs = word.isPrefixOf ds := by
  rw [Bool.eq_iff_iff, List.isPrefixOf_iff_prefix, List.isPrefixOf_iff_prefix]
  constructor
  · rintro ⟨rest, rfl⟩
    obtain ⟨more, rfl, -⟩ := h.of_append hr
    exact List.prefix_append word more
  · rintro ⟨rest, rfl⟩
    obtain ⟨more, rfl, -⟩ := h.of_append_right hn
    exact List.prefix_append word more

/-- What is left behind a word is the same but for the ends of lines. -/
theorem drop {word : List Char} (hw : '\r' ∉ word) (hp : word <+: cs) (h : SameLines cs ds) :
    SameLines (cs.drop word.length) (ds.drop word.length) := by
  obtain ⟨rest, rfl⟩ := hp
  obtain ⟨more, rfl, h⟩ := h.of_append hw
  rwa [List.drop_left, List.drop_left]

/-- A row of characters that do not end a line is the same. -/
theorem takeWhile_eq {p : Char → Bool} (hr : p '\r' = false) (hn : p '\n' = false)
    (h : SameLines cs ds) : cs.takeWhile p = ds.takeWhile p := by
  induction h with
  | nil => rfl
  | cons c h ih => rw [List.takeWhile_cons, List.takeWhile_cons, ih]
  | single h ih => simp [hr, hn]
  | double h ih => simp [hr, hn]

/-- Behind white space the texts are the same but for the ends of lines. -/
theorem skipSpace (h : SameLines cs ds) (n m : Nat) :
    SameLines (skipSpace cs n).rest (skipSpace ds m).rest := by
  induction h generalizing n m with
  | nil => exact .nil
  | cons c h ih =>
    rw [Json.skipSpace, Json.skipSpace]
    split
    · exact ih _ _
    · exact h.cons c
  | single h ih => exact ih _ _
  | double h ih => exact ih _ _

end SameLines

end FormAutomation.Json
