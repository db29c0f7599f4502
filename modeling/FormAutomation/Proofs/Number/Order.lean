import FormAutomation.Number.Binary64
import Mathlib.Tactic.SplitIfs

/-!
# The order of doubles

Doubles that are numbers are ordered as a line: of any two, one is at most the other, and
*less* is the opposite of *at least*.  What is no number has no place on it.
-/

namespace FormAutomation.Binary64

variable {x y : Binary64}

theorem isNaN_ofParts (negative : Bool) (m : Nat) (e : Int) :
    (ofParts negative m e).isNaN = false := by
  unfold ofParts
  split <;> rfl

/-- Rounding a ratio gives a number. -/
theorem isNaN_ofRatio (negative : Bool) (num den : Nat) :
    (ofRatio negative num den).isNaN = false := by
  unfold ofRatio
  dsimp only
  split_ifs
  · rfl
  · exact isNaN_ofParts _ _ _
  · exact isNaN_ofParts _ _ _

theorem isNaN_of_ofInt? {n : Int} (h : ofInt? n = some x) : x.isNaN = false := by
  unfold ofInt? at h
  split at h
  · cases h
  · rw [← Option.some.inj h]
    exact isNaN_ofRatio _ _ _

/-- Of two numbers one is at most the other. -/
theorem le_total (hx : x.isNaN = false) (hy : y.isNaN = false) : x.le y = true ∨ y.le x = true := by
  cases x with
  | nan => cases hx
  | infinity a =>
    cases y with
    | nan => cases hy
    | infinity b => cases a <;> simp [le]
    | finite b n f h => cases a <;> simp [le]
  | finite a m e h =>
    cases y with
    | nan => cases hy
    | infinity b => cases b <;> simp [le]
    | finite b n f h' => simpa [le] using Int.le_total (units a m e) (units b n f)

/-- One number is less than another if that is not at most the first. -/
theorem lt_eq_not_le (hx : x.isNaN = false) (hy : y.isNaN = false) : x.lt y = !y.le x := by
  cases x with
  | nan => cases hx
  | infinity a =>
    cases y with
    | nan => cases hy
    | infinity b => cases a <;> cases b <;> rfl
    | finite b n f h => cases a <;> rfl
  | finite a m e h =>
    cases y with
    | nan => cases hy
    | infinity b => cases b <;> rfl
    | finite b n f h' => simp only [lt, le, ← Int.not_le, decide_not]

theorem isNaN_of_lt (h : x.lt y = true) : x.isNaN = false ∧ y.isNaN = false := by
  cases x with
  | nan => cases h
  | infinity a =>
    cases y with
    | nan => cases h
    | _ => exact ⟨rfl, rfl⟩
  | finite a m e hx =>
    cases y with
    | nan => cases h
    | _ => exact ⟨rfl, rfl⟩

theorem le_of_lt (h : x.lt y = true) : x.le y = true := by
  obtain ⟨hx, hy⟩ := isNaN_of_lt h
  refine (le_total hx hy).resolve_right fun hle => ?_
  rw [lt_eq_not_le hx hy, hle] at h
  cases h

/-- What is raised to a least number is a number, and no less. -/
theorem le_atLeast {least : Binary64} (h : least.isNaN = false) (x : Binary64) :
    least.le (least.atLeast x) = true ∧ (least.atLeast x).isNaN = false := by
  unfold atLeast
  split
  · next hlt => exact ⟨le_of_lt hlt, (isNaN_of_lt hlt).2⟩
  · exact ⟨(le_total h h).elim id id, h⟩

/-- Of three ways in which two numbers can stand to one another, they stand in exactly one. -/
theorem count_lt_lt_le (hx : x.isNaN = false) (hy : y.isNaN = false) :
    [y.lt x, x.lt y, y.le x && x.le y].count true = 1 := by
  rw [lt_eq_not_le hx hy, lt_eq_not_le hy hx]
  rcases le_total hx hy with h | h
  · rw [h]
    cases y.le x <;> rfl
  · rw [h]
    cases x.le y <;> rfl

end FormAutomation.Binary64
