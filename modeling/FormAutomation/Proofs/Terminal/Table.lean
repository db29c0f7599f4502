import FormAutomation.Terminal.Table
import Mathlib.Data.List.Range

/-!
# Tables that can be shown

The texts of a table are read as markup, and not every text can be: a closing tag needs a
style that is open, and what follows it has to be understood.  A table can be printed if all
of its texts can be read, or if there is no room for them anyway.
-/

namespace FormAutomation.Terminal.Table

/-- All that would be shown of the table can be read as markup.  Without any width nothing
is shown, and without room for a cell no cell is. -/
def IsReadable (table : Table) (width : Nat) : Prop :=
  width = 0 ∨ (∃ shown, Markup.visible table.title = .ok shown)
    ∧ (width - (table.columns.length + 1) ≤ padding
      ∨ ∀ i < table.columns.length, ∀ text ∈ table.columnTexts i,
        ∃ shown, Markup.visible text = .ok shown)

theorem exists_mapM_iff {ε α β : Type} {f : α → Except ε β} {xs : List α} :
    (∃ ys, xs.mapM f = .ok ys) ↔ ∀ x ∈ xs, ∃ y, f x = .ok y := by
  induction xs with
  | nil => exact iff_of_true ⟨[], rfl⟩ nofun
  | cons x xs ih =>
    rw [List.forall_mem_cons, ← ih, List.mapM_cons]
    rcases f x with fault | y
    · exact iff_of_false (by rintro ⟨ys, h⟩; cases h) (by rintro ⟨⟨y, h⟩, -⟩; cases h)
    · rcases xs.mapM f with fault | ys
      · exact iff_of_false (by rintro ⟨ys, h⟩; cases h) (by rintro ⟨-, ⟨ys, h⟩⟩; cases h)
      · exact iff_of_true ⟨y :: ys, rfl⟩ ⟨⟨y, rfl⟩, ⟨ys, rfl⟩⟩

theorem exists_visible_iff {limit : Nat} {texts : List String} :
    (∃ shown, visible limit texts = .ok shown)
      ↔ limit ≤ padding ∨ ∀ text ∈ texts, ∃ shown, Markup.visible text = .ok shown := by
  unfold visible
  split
  · next h => exact iff_of_true ⟨[], rfl⟩ (.inl h)
  · next h => rw [exists_mapM_iff, or_iff_right h]

/-- A table can be printed exactly if all that would be shown of it can be read. -/
theorem exists_printed_iff {table : Table} {width : Nat} :
    (∃ text, table.printed width = .ok text) ↔ table.IsReadable width := by
  have hcells : (∃ columns, (List.range table.columns.length).mapM (fun i =>
        visible (width - (table.columns.length + 1)) (table.columnTexts i)) = .ok columns)
      ↔ width - (table.columns.length + 1) ≤ padding
        ∨ ∀ i < table.columns.length, ∀ text ∈ table.columnTexts i,
          ∃ shown, Markup.visible text = .ok shown := by
    simp only [exists_mapM_iff, exists_visible_iff, List.mem_range]
    by_cases hroom : width - (table.columns.length + 1) ≤ padding
    · simp [hroom]
    · simp [hroom]
  unfold printed IsReadable
  by_cases hw : width = 0
  · rw [if_pos hw]
    exact iff_of_true ⟨"", rfl⟩ (.inl hw)
  rw [if_neg hw, or_iff_right hw, ← hcells]
  simp only [bind, Except.bind]
  rcases (List.range table.columns.length).mapM (fun i =>
    visible (width - (table.columns.length + 1)) (table.columnTexts i)) with fault | columns
  · exact iff_of_false (by rintro ⟨text, h⟩; cases h) (by rintro ⟨-, ⟨columns, h⟩⟩; cases h)
  rcases Markup.visible table.title with fault | title
  · exact iff_of_false (by rintro ⟨text, h⟩; cases h) (by rintro ⟨⟨title, h⟩, -⟩; cases h)
  · exact iff_of_true ⟨_, rfl⟩ ⟨⟨title, rfl⟩, ⟨columns, rfl⟩⟩

end FormAutomation.Terminal.Table
