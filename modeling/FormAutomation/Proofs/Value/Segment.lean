import FormAutomation.Proofs.Value.Position

/-!
# Names that look like indices

An object may have any names, and some of them look as if they led further: `rows[0]`, `]`,
`a[b]`, `guests[]`.  A segment of a path is read as an index behind a name only if it is written
as one: there are no brackets in the name, which may be empty, and behind it are digits between
brackets.  Any other segment is a name as a whole, whatever brackets it has, and leads to the
entry of that name.

The closing bracket is meant to be the last character of an index.  It is, but for a line break
that may come behind it: an entry whose name ends in one is not found under its name, if an index
stands before the line break.
-/

namespace FormAutomation

namespace Segment

/-- The characters are a name without brackets, digits in brackets that write the index, and
what comes after them. -/
def WritesIndex (cs name : List Char) (index : Nat) (after : List Char) : Prop :=
  (∀ c ∈ name, isBracket c = false)
    ∧ ∃ digits, IsNumeral digits index ∧ cs = name ++ '[' :: (digits ++ ']' :: after)

/-- The segment ends in an index.  Nothing comes after it, or a line break. -/
def EndsInIndex (cs name : List Char) (index : Nat) : Prop :=
  ∃ after, (after = [] ∨ after = ['\n']) ∧ WritesIndex cs name index after

variable {cs name : List Char} {index : Nat}

/-- What was read as an index was written as one. -/
theorem endsInIndex_of_indexed? (h : indexed? cs = some (name, index)) :
    EndsInIndex cs name index := by
  unfold indexed? at h
  split at h
  · next inside hbrackets =>
    dsimp only at h
    split at h
    · next after hdigits =>
      split at h
      · cases h
      · next hsome =>
        split at h
        · next hafter =>
          obtain ⟨hname, hindex⟩ := Prod.mk.inj (Option.some.inj h)
          have hcs : cs = cs.takeWhile (!isBracket ·) ++ '[' :: inside := by
            rw [← hbrackets, List.takeWhile_append_dropWhile]
          have hinside : inside = inside.takeWhile Text.isDecimalDigit ++ ']' :: after := by
            rw [← hdigits, List.takeWhile_append_dropWhile]
          refine ⟨after, hafter, fun c hc => ?_, inside.takeWhile Text.isDecimalDigit,
            ⟨fun hnil => hsome (by rw [hnil]; rfl), fun c hc => List.mem_takeWhile_imp hc, hindex⟩,
            ?_⟩
          · rw [← hname] at hc
            simpa using List.mem_takeWhile_imp hc
          · rw [← hinside, ← hname]
            exact hcs
        · cases h
    · cases h
  · cases h

theorem indexed?_eq_some_iff : indexed? cs = some (name, index) ↔ EndsInIndex cs name index := by
  refine ⟨endsInIndex_of_indexed?, ?_⟩
  rintro ⟨after, hafter, hname, digits, hdigits, rfl⟩
  exact indexed?_of_isNumeral hname hdigits hafter

theorem indexed?_eq_none_iff :
    indexed? cs = none ↔ ∀ name index, ¬ EndsInIndex cs name index := by
  simp only [Option.eq_none_iff_forall_ne_some, Prod.forall, ne_eq, indexed?_eq_some_iff]

/-- A segment is read as an index behind a name exactly if it ends in one. -/
theorem ofChars_eq_indexed_iff {name : String} :
    ofChars cs = .indexed name index ↔ EndsInIndex cs name.toList index := by
  rw [← indexed?_eq_some_iff, ofChars]
  rcases hindexed : indexed? cs with _ | ⟨front, n⟩
  · simp
  · simp [← String.toList_inj]

end Segment

/-! ## Names of entries as paths -/

namespace Value

/-- A name without points that is neither nothing nor a lone dollar sign: as a path it is one
segment. -/
structure IsSegment (key : String) : Prop where
  /-- no points -/
  point : '.' ∉ key.toList
  /-- something -/
  ne_empty : key ≠ ""
  /-- not the sign for the whole -/
  ne_dollar : key ≠ "$"

/-- Which segments are indices, and what they lead to in an object. -/
structure TellsIndices (fields : Entries Value) : Prop where
  /-- a segment is an index behind a name exactly if it ends in one -/
  indexed_iff : ∀ cs name index,
    Segment.ofChars cs = .indexed name index ↔ Segment.EndsInIndex cs name.toList index
  /-- any other is the name of an entry, or of none -/
  named : ∀ key, IsSegment key →
    (∀ name index, ¬ Segment.EndsInIndex key.toList name index) →
      (Value.object fields).select (Path.ofText key) = (fields.lookup key).getD .null
  /-- an index leads into the list under the name before it; an object is no list -/
  indexed : ∀ key name index, IsSegment key → Segment.EndsInIndex key.toList name.toList index →
    (Value.object fields).select (Path.ofText key)
      = if name = "" then .null else ((fields.lookup name).getD .null).item index

theorem IsSegment.ofText_eq {key : String} (h : IsSegment key) :
    Path.ofText key = [Segment.ofChars key.toList] := by
  rw [Path.ofText, if_neg (by simp [h.ne_empty, h.ne_dollar]), Text.splitOn_of_not_mem h.point]
  rfl

/-- Indices are told from names by how they are written, whatever the names of an object are. -/
theorem tellsIndices (fields : Entries Value) : TellsIndices fields where
  indexed_iff := fun _ _ _ => Segment.ofChars_eq_indexed_iff
  named := by
    intro key hkey hname
    rw [hkey.ofText_eq, Segment.ofChars, Segment.indexed?_eq_none_iff.2 hname,
      String.ofList_toList]
    rfl
  indexed := by
    intro key name index hkey hindex
    rw [hkey.ofText_eq, Segment.ofChars_eq_indexed_iff.2 hindex]
    change (if name = "" then Value.object fields else (Value.object fields).child name).item index
      = _
    split
    · rfl
    · rfl

/-- Brackets that hold no digits make the whole a name. -/
example :
    (Value.object [("a[b][0]", .int 1), ("a[b]", .list [.int 2])]).select (Path.ofText "a[b][0]")
      = .int 1 := rfl

/-- An entry whose name ends in a line break. -/
def brokenName : Entries Value := [("rows[0]\n", .int 5)]

/-- No closing bracket is the last character of this name, but the entry is not found. -/
theorem select_brokenName_ne_entry :
    ¬ ∀ (fields : Entries Value) (key : String), IsSegment key →
      (∀ name index, ¬ Segment.WritesIndex key.toList name index []) →
        (Value.object fields).select (Path.ofText key) = (fields.lookup key).getD .null := by
  intro h
  have hsegment : IsSegment "rows[0]\n" := ⟨by decide, by decide, by decide⟩
  have hfound := h brokenName "rows[0]\n" hsegment fun name index hwrites => by
    obtain ⟨-, digits, -, hcs⟩ := hwrites
    have hlast := congrArg List.getLast? hcs
    simp [List.getLast?_cons] at hlast
  have hnull : (Value.object brokenName).select (Path.ofText "rows[0]\n") = .null := rfl
  rw [hnull] at hfound
  cases hfound

end Value

end FormAutomation
