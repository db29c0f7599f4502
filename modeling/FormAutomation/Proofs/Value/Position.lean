import FormAutomation.Number.Shortest
import FormAutomation.Value.Path
import Mathlib.Data.List.TakeWhile
import Mathlib.Data.Nat.Digits.Defs

/-!
# Positions inside values

A position inside a value is a row of steps that can be taken from it: to the entry of an object
under a name, to the item of a list at an index.  A written path says which steps to take, but
not in one way only: an index is written as a segment of its own, with brackets or without, or
in brackets behind the name before it, and a segment of digits is a name where the value is an
object.

Every way of writing a position leads to it, as long as the names have no points and brackets.
In the other direction nothing can be got out of a value by a path but what stands inside it:
where a path leads is null, or a position, the value itself being that of no steps.  Paths may
also be followed one after the other.
-/

namespace FormAutomation

/-! ## Numerals -/

/-- The characters are decimal digits that write a number. -/
structure IsNumeral (digits : List Char) (n : Nat) : Prop where
  /-- there are some -/
  ne_nil : digits ≠ []
  /-- they are digits, of whatever script -/
  decimal : ∀ c ∈ digits, Text.isDecimalDigit c = true
  /-- in base ten -/
  value : Text.digitsValue digits = n

theorem digitValue?_digitChar {d : Nat} (h : d < 10) :
    Text.digitValue? d.digitChar = some d := by
  have hall : ∀ d < 10, Text.digitValue? (Nat.digitChar d) = some d := by decide
  exact hall d h

theorem isNumeral_digitChar {d : Nat} (h : d < 10) : IsNumeral [d.digitChar] d := by
  refine ⟨List.cons_ne_nil _ _, fun c hc => ?_, ?_⟩
  · rw [List.mem_singleton.1 hc, Text.isDecimalDigit, digitValue?_digitChar h]
    rfl
  · simp [Text.digitsValue, digitValue?_digitChar h]

/-- A number is written by its digits in base ten. -/
theorem isNumeral_digitsOf (n : Nat) : IsNumeral (Decimal.digitsOf n) n := by
  induction n using Nat.strong_induction_on with
  | _ n ih =>
    unfold Decimal.digitsOf
    rcases Nat.lt_or_ge n 10 with hlt | hge
    · rw [Nat.toDigits_of_lt_base hlt]
      exact isNumeral_digitChar hlt
    · have hfront : IsNumeral (Nat.toDigits 10 (n / 10)) (n / 10) := ih (n / 10) (by omega)
      have hlast : IsNumeral [(n % 10).digitChar] (n % 10) := isNumeral_digitChar (by omega)
      rw [Nat.toDigits_of_base_le (by decide) hge]
      refine ⟨by simp, fun c hc => ?_, ?_⟩
      · rcases List.mem_append.1 hc with hc | hc
        · exact hfront.decimal c hc
        · exact hlast.decimal c hc
      · rw [Text.digitsValue_append, hfront.value, hlast.value]
        have hpower : Nat.pow 10 [(n % 10).digitChar].length = 10 := rfl
        rw [hpower]
        omega

/-! ## Written segments -/

section

variable {name : String} {digits : List Char} {n : Nat}

/-- A name that may stand in a path: one without points and brackets. -/
def IsPlainName (name : String) : Prop :=
  ∀ c ∈ name.toList, c ≠ '.' ∧ Segment.isBracket c = false

theorem IsNumeral.isBracket (h : IsNumeral digits n) : ∀ c ∈ digits, Segment.isBracket c = false := by
  intro c hc
  have hdecimal := h.decimal c hc
  rw [Bool.eq_false_iff]
  intro hbracket
  simp only [Segment.isBracket, Bool.or_eq_true, beq_iff_eq] at hbracket
  rcases hbracket with rfl | rfl
  · exact absurd hdecimal (by decide)
  · exact absurd hdecimal (by decide)

theorem IsNumeral.point_not_mem (h : IsNumeral digits n) : '.' ∉ digits :=
  fun hc => absurd (h.decimal _ hc) (by decide)

theorem IsNumeral.isDecimal (h : IsNumeral digits n) : Text.isDecimal digits = true := by
  rw [Text.isDecimal, List.all_eq_true.2 h.decimal, List.isEmpty_eq_false_iff.2 h.ne_nil]
  rfl

/-- A segment without brackets is a name. -/
theorem Segment.ofChars_of_not_bracket {cs : List Char}
    (h : ∀ c ∈ cs, Segment.isBracket c = false) : Segment.ofChars cs = .named (String.ofList cs) := by
  have hnone : cs.dropWhile (!Segment.isBracket ·) = [] :=
    List.dropWhile_eq_nil_iff.2 fun c hc => by simp [h c hc]
  rw [Segment.ofChars, Segment.indexed?, hnone]

/-- An index in brackets is read with the name before it, also if a line break follows. -/
theorem Segment.indexed?_of_isNumeral {front after : List Char}
    (hfront : ∀ c ∈ front, Segment.isBracket c = false) (h : IsNumeral digits n)
    (hafter : after = [] ∨ after = ['\n']) :
    Segment.indexed? (front ++ '[' :: (digits ++ ']' :: after)) = some (front, n) := by
  have hplain : ∀ c ∈ front, (!Segment.isBracket c) = true := fun c hc => by simp [hfront c hc]
  have hdrop : (front ++ '[' :: (digits ++ ']' :: after)).dropWhile (!Segment.isBracket ·)
      = '[' :: (digits ++ ']' :: after) := by
    rw [List.dropWhile_append_of_pos hplain]
    rfl
  have htake : (front ++ '[' :: (digits ++ ']' :: after)).takeWhile (!Segment.isBracket ·)
      = front := by
    rw [List.takeWhile_append_of_pos hplain]
    simp [Segment.isBracket]
  have hinside : (digits ++ ']' :: after).dropWhile Text.isDecimalDigit = ']' :: after := by
    rw [List.dropWhile_append_of_pos h.decimal]
    rfl
  have hdigits : (digits ++ ']' :: after).takeWhile Text.isDecimalDigit = digits := by
    rw [List.takeWhile_append_of_pos h.decimal]
    simp [show Text.isDecimalDigit ']' = false from rfl]
  rw [Segment.indexed?, hdrop]
  simp only [hinside, hdigits, htake, List.isEmpty_eq_false_iff.2 h.ne_nil, Bool.false_eq_true,
    if_false, hafter, if_true, h.value]

/-- A segment that ends in an index has it, with the name before the brackets. -/
theorem Segment.ofChars_indexed (front : List Char)
    (hfront : ∀ c ∈ front, Segment.isBracket c = false) (h : IsNumeral digits n) :
    Segment.ofChars (front ++ '[' :: (digits ++ [']'])) = .indexed (String.ofList front) n := by
  rw [Segment.ofChars, Segment.indexed?_of_isNumeral hfront h (.inl rfl)]

end

namespace Value

/-! ## Positions -/

/-- One step from a value to one inside it. -/
inductive Step where
  /-- to the entry of an object under a name -/
  | entry (name : String)
  /-- to the item of a list at an index -/
  | item (index : Nat)

/-- The steps lead from a value to one that stands inside it. -/
inductive StandsAt : Value → List Step → Value → Prop where
  /-- no steps lead to the value itself -/
  | here (v : Value) : StandsAt v [] v
  /-- a step to an entry -/
  | entry {fields : List (String × Value)} {name : String} {inner v : Value} {steps : List Step}
      (h : fields.lookup name = some inner) (hrest : StandsAt inner steps v) :
      StandsAt (.object fields) (.entry name :: steps) v
  /-- a step to an item -/
  | item {items : List Value} {index : Nat} {inner v : Value} {steps : List Step}
      (h : items[index]? = some inner) (hrest : StandsAt inner steps v) :
      StandsAt (.list items) (.item index :: steps) v

/-- The segments write the steps. -/
inductive Writes : List Step → List (List Char) → Prop where
  /-- no steps, no segments -/
  | done : Writes [] []
  /-- a name is written as it is -/
  | entry {name : String} {steps : List Step} {segments : List (List Char)}
      (h : IsPlainName name) (hrest : Writes steps segments) :
      Writes (.entry name :: steps) (name.toList :: segments)
  /-- an index by digits -/
  | item {digits : List Char} {index : Nat} {steps : List Step} {segments : List (List Char)}
      (h : IsNumeral digits index) (hrest : Writes steps segments) :
      Writes (.item index :: steps) (digits :: segments)
  /-- or by digits in brackets -/
  | bracketed {digits : List Char} {index : Nat} {steps : List Step}
      {segments : List (List Char)} (h : IsNumeral digits index) (hrest : Writes steps segments) :
      Writes (.item index :: steps) (('[' :: (digits ++ [']'])) :: segments)
  /-- or in brackets behind the name before it, if there is something in front of them -/
  | behind {name : String} {digits : List Char} {index : Nat} {steps : List Step}
      {segments : List (List Char)} (hname : IsPlainName name) (hne : name ≠ "")
      (h : IsNumeral digits index) (hrest : Writes steps segments) :
      Writes (.entry name :: .item index :: steps)
        ((name.toList ++ '[' :: (digits ++ [']'])) :: segments)

section

variable {v inner : Value} {steps more : List Step} {segments : List (List Char)}

theorem StandsAt.append {w : Value} (h : StandsAt v steps inner) (h' : StandsAt inner more w) :
    StandsAt v (steps ++ more) w := by
  induction h with
  | here v => exact h'
  | entry h hrest ih => exact .entry h (ih h')
  | item h hrest ih => exact .item h (ih h')

theorem Writes.point_not_mem (h : Writes steps segments) : ∀ segment ∈ segments, '.' ∉ segment := by
  induction h with
  | done => exact fun _ h => absurd h List.not_mem_nil
  | entry h hrest ih => exact List.forall_mem_cons.2 ⟨fun hc => (h _ hc).1 rfl, ih⟩
  | item h hrest ih => exact List.forall_mem_cons.2 ⟨h.point_not_mem, ih⟩
  | bracketed h hrest ih =>
    refine List.forall_mem_cons.2 ⟨fun hc => ?_, ih⟩
    exact h.point_not_mem (by simpa using hc)
  | behind hname hne h hrest ih =>
    refine List.forall_mem_cons.2 ⟨fun hc => ?_, ih⟩
    rcases List.mem_append.1 hc with hc | hc
    · exact (hname _ hc).1 rfl
    · exact h.point_not_mem (by simpa using hc)

/-- The segments that write a position lead to what stands there. -/
theorem Writes.select_eq (h : Writes steps segments) (hstands : StandsAt v steps inner) :
    v.select (segments.map Segment.ofChars) = inner := by
  induction h generalizing v with
  | done =>
    cases hstands
    rfl
  | @entry name steps segments h hrest ih =>
    cases hstands with
    | entry hentry hstands =>
      rw [List.map_cons, Segment.ofChars_of_not_bracket fun c hc => (h c hc).2,
        String.ofList_toList, ← ih hstands]
      simp [select, follow, child, field, hentry]
  | @item digits index steps segments h hrest ih =>
    cases hstands with
    | item hitem hstands =>
      rw [List.map_cons, Segment.ofChars_of_not_bracket h.isBracket, ← ih hstands]
      simp [select, follow, child, Value.item, h.isDecimal, h.value, hitem]
  | @bracketed digits index steps segments h hrest ih =>
    cases hstands with
    | item hitem hstands =>
      have hsegment := Segment.ofChars_indexed [] (fun _ h => absurd h List.not_mem_nil) h
      rw [List.nil_append] at hsegment
      rw [List.map_cons, hsegment, ← ih hstands]
      simp [select, follow, Value.item, hitem]
  | @behind name digits index steps segments hname hne h hrest ih =>
    cases hstands with
    | entry hentry hstands =>
      cases hstands with
      | item hitem hstands =>
        rw [List.map_cons, Segment.ofChars_indexed _ (fun c hc => (hname c hc).2) h,
          String.ofList_toList, ← ih hstands]
        simp [select, follow, child, field, Value.item, hne, hentry, hitem]

/-! ## Where paths lead -/

/-- What can be got out of a value: null, and what stands at a position inside it. -/
def Contains (v w : Value) : Prop :=
  w = .null ∨ ∃ steps, StandsAt v steps w

/-- Nothing can be got out of null. -/
theorem eq_null_of_contains {w : Value} (h : Contains .null w) : w = .null := by
  rcases h with h | ⟨steps, hstands⟩
  · exact h
  · cases hstands
    rfl

theorem Contains.trans {w : Value} (h : Contains v inner) (h' : Contains inner w) :
    Contains v w := by
  rcases h with rfl | ⟨steps, h⟩
  · exact .inl (eq_null_of_contains h')
  · rcases h' with h' | ⟨more, h'⟩
    · exact .inl h'
    · exact .inr ⟨steps ++ more, h.append h'⟩

theorem contains_field (v : Value) (name : String) : Contains v (v.field name) := by
  unfold field
  split
  · next fields =>
    rcases hentry : fields.lookup name with _ | inner
    · exact .inl rfl
    · exact .inr ⟨[.entry name], .entry hentry (.here inner)⟩
  · exact .inl rfl

theorem contains_item (v : Value) (index : Nat) : Contains v (v.item index) := by
  unfold Value.item
  split
  · next items =>
    rcases hitem : items[index]? with _ | inner
    · exact .inl rfl
    · exact .inr ⟨[.item index], .item hitem (.here inner)⟩
  · exact .inl rfl

theorem contains_child (v : Value) (name : String) : Contains v (v.child name) := by
  unfold child
  split
  · split
    · exact contains_item _ _
    · exact .inl rfl
  · exact contains_field _ _

theorem contains_follow (v : Value) (segment : Segment) : Contains v (v.follow segment) := by
  cases segment with
  | named name => exact contains_child v name
  | indexed name index =>
    by_cases hname : name = ""
    · simpa only [follow, hname, if_true] using contains_item v index
    · simpa only [follow, hname, if_false] using
        (contains_child v name).trans (contains_item _ index)

theorem contains_select (v : Value) (path : Path) : Contains v (v.select path) := by
  induction path generalizing v with
  | nil => exact .inr ⟨[], .here v⟩
  | cons segment rest ih => exact (contains_follow v segment).trans (ih (v.follow segment))

end

/-- Written paths lead to the positions inside a value. -/
structure PathsLead (v : Value) : Prop where
  /-- every way of writing a position leads to what stands there; nothing, and a lone dollar
  sign, write none -/
  reached : ∀ {steps : List Step} {segments : List (List Char)} {inner : Value} {text : String},
    StandsAt v steps inner → Writes steps segments →
    text.toList = ['.'].intercalate segments → text ≠ "" → text ≠ "$" →
    v.select (Path.ofText text) = inner
  /-- the digits of a number in base ten are among those that write it -/
  numbered : ∀ n, IsNumeral (Decimal.digitsOf n) n
  /-- no path leads to anything but null, the value itself, or what stands inside it -/
  contained : ∀ text, v.select (Path.ofText text) = .null ∨ v.select (Path.ofText text) = v
    ∨ ∃ step steps, StandsAt v (step :: steps) (v.select (Path.ofText text))

theorem ofText_intercalate {steps : List Step} {segments : List (List Char)} {text : String}
    (h : Writes steps segments) (htext : text.toList = ['.'].intercalate segments)
    (hne : text ≠ "") (hroot : text ≠ "$") :
    Path.ofText text = segments.map Segment.ofChars := by
  have hsegments : segments ≠ [] := by
    rintro rfl
    exact hne (String.toList_eq_nil_iff.1 htext)
  rw [Path.ofText, if_neg (by simp [hne, hroot]), htext,
    Text.splitOn_intercalate hsegments h.point_not_mem]

/-- Paths address the positions inside a value, all of them, and nothing else. -/
theorem pathsLead_ofText (v : Value) : PathsLead v where
  reached := by
    intro steps segments inner text hstands hwrites htext hne hroot
    rw [ofText_intercalate hwrites htext hne hroot]
    exact hwrites.select_eq hstands
  numbered := isNumeral_digitsOf
  contained := by
    intro text
    rcases contains_select v (Path.ofText text) with hnull | ⟨steps, hstands⟩
    · exact .inl hnull
    · cases steps with
      | nil =>
        refine .inr (.inl ?_)
        generalize v.select (Path.ofText text) = w at hstands
        cases hstands
        rfl
      | cons step steps => exact .inr (.inr ⟨step, steps, hstands⟩)

/-- Digits are a name in an object, and an index in a list. -/
example :
    let rows : Value := .object [("0", .list [.null, .object [("", .list [.text "x"])]])]
    rows.select (Path.ofText "0[01]..0") = .text "x" := rfl

/-! ## Paths one after the other -/

theorem ofText_joined {p q : String} (hp : p ≠ "" ∧ p ≠ "$") (hq : q ≠ "" ∧ q ≠ "$") :
    Path.ofText (p ++ "." ++ q) = Path.ofText p ++ Path.ofText q := by
  have htext : (p ++ "." ++ q).toList = p.toList ++ '.' :: q.toList := by
    simp
  have hne : ¬ (p ++ "." ++ q = "" ∨ p ++ "." ++ q = "$") := by
    rintro (h | h)
    · have hmem : '.' ∈ (p ++ "." ++ q).toList := by simp
      rw [h] at hmem
      exact absurd hmem (by decide)
    · have hmem : '.' ∈ (p ++ "." ++ q).toList := by simp
      rw [h] at hmem
      exact absurd hmem (by decide)
  rw [Path.ofText, if_neg hne, htext, Text.splitOn_append, List.map_append, Path.ofText,
    if_neg (by simp [hp.1, hp.2]), Path.ofText, if_neg (by simp [hq.1, hq.2])]

/-- A path that is joined of two leads where the second one leads from the end of the first. -/
theorem select_ofText_joined (v : Value) {p q : String} (hp : p ≠ "" ∧ p ≠ "$")
    (hq : q ≠ "" ∧ q ≠ "$") :
    v.select (Path.ofText (p ++ "." ++ q))
      = (v.select (Path.ofText p)).select (Path.ofText q) := by
  rw [ofText_joined hp hq, select_append]

/-- A value with an empty name, and one that looks like the end of an index. -/
def oddlyNamed : Value :=
  .object [("rows", .list [.object [("", .object [("a]", .int 7)])]])]

/-- The first path ends in an empty segment, and the second one is a name. -/
theorem select_ofText_joined_oddlyNamed :
    ("rows[0]." ≠ "" ∧ "rows[0]." ≠ "$") ∧ ("a]" ≠ "" ∧ "a]" ≠ "$")
      ∧ oddlyNamed.select (Path.ofText ("rows[0]." ++ "." ++ "a]"))
        = (oddlyNamed.select (Path.ofText "rows[0].")).select (Path.ofText "a]")
      ∧ (oddlyNamed.select (Path.ofText "rows[0].")).select (Path.ofText "a]") = .int 7 :=
  ⟨by decide, by decide, select_ofText_joined oddlyNamed (by decide) (by decide), rfl⟩

end Value

end FormAutomation
