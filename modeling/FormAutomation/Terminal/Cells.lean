import FormAutomation.Terminal.CellWidth

/-!
# Cells

A terminal shows text in cells, and the width of a text is counted in cells, so
a text may be wider or narrower than it is long.  Characters that are drawn in
one place make up a *grapheme*: a letter with its marks, several pictures joined
to one, or a sign that is asked to show as a picture.  A text is never cut inside
a grapheme.

The main statement is `cells_padded`: a text that is filled up with blanks takes
the width that was asked for, unless it ends with a joiner, which takes the first
blank along.
-/

namespace FormAutomation.Terminal

open Text

/-- The joiner: what follows it is drawn where what precedes it is. -/
def joiner : Char := '\u200D'

/-- The sign that asks for the character before it to show as a picture. -/
def pictureSign : Char := '\uFE0F'

/-- The cells that a character gains as a picture. -/
def widening (c : Option Char) : Nat :=
  if c.any widenedRanges.contains then 1 else 0

/-- How many cells a text takes after a character that was counted last. -/
def cellsAfter (last : Option Char) : List Char → Nat
  | [] => 0
  | c :: cs =>
    if c = joiner then
      match cs with
      | [] => 0
      | _ :: rest => cellsAfter last rest
    else if c = pictureSign then widening last + cellsAfter none cs
    else if cellsOf c = 0 then cellsAfter last cs
    else cellsOf c + cellsAfter (some c) cs

/-- How many cells a text takes. -/
def cells (cs : List Char) : Nat :=
  cellsAfter none cs

/-- A text filled up with blanks to a width. -/
def padded (width : Nat) (cs : List Char) : List Char :=
  cs ++ List.replicate (width - cells cs) ' '

/-! ## Graphemes -/

/-- A part of a text that is drawn in one place. -/
structure Grapheme where
  /-- its characters -/
  text : List Char
  /-- the cells that it takes -/
  cells : Nat

/-- The graphemes of a text.  Given is what belongs to the first of them already,
in reverse, with the cells that it takes and the character counted last. -/
def gather (text : List Char) (size : Nat) (last : Option Char) :
    List Char → List Grapheme
  | [] => [⟨text.reverse, size⟩]
  | c :: cs =>
    if c = joiner then
      match cs with
      | [] => [⟨(c :: text).reverse, size⟩]
      | d :: rest => gather (d :: c :: text) size last rest
    else if c = pictureSign then gather (c :: text) (size + widening last) none cs
    else if cellsOf c = 0 then gather (c :: text) size last cs
    else ⟨text.reverse, size⟩ :: gather [c] (cellsOf c) (some c) cs

/-- The graphemes of a text. -/
def graphemes : List Char → List Grapheme
  | [] => []
  | c :: cs =>
    if cellsOf c = 0 then gather [c] 0 none cs else gather [c] (cellsOf c) (some c) cs

/-- The graphemes at the start that fit into some room.  Where one goes beyond
it a blank stands in its place. -/
def fitting (room : Nat) : List Grapheme → List Char
  | [] => []
  | grapheme :: rest =>
    if room = 0 then []
    else if grapheme.cells ≤ room then
      grapheme.text ++ fitting (room - grapheme.cells) rest
    else [' ']

/-- A text cut or filled up to a width. -/
def resized (width : Nat) (cs : List Char) : List Char :=
  if cells cs ≤ width then padded width cs else fitting width (graphemes cs)

/-! ## Laws -/

theorem cellsAfter_cons {last : Option Char} {c : Char} {cs : List Char} (h : c ≠ joiner) :
    cellsAfter last (c :: cs) =
      if c = pictureSign then widening last + cellsAfter none cs
      else if cellsOf c = 0 then cellsAfter last cs
      else cellsOf c + cellsAfter (some c) cs := by
  rw [cellsAfter.eq_def]
  exact if_neg h

theorem cellsAfter_replicate_blank (last : Option Char) (n : Nat) :
    cellsAfter last (List.replicate n ' ') = n := by
  have blank : cellsOf ' ' = 1 := by decide
  have notJoiner : ' ' ≠ joiner := by decide
  have notSign : ' ' ≠ pictureSign := by decide
  induction n generalizing last with
  | zero => rfl
  | succ n ih =>
    rw [List.replicate_succ, cellsAfter_cons notJoiner, if_neg notSign, blank,
      if_neg Nat.one_ne_zero, Nat.add_comm, ih]

/-- Blanks at the end of a text take a cell each, unless a joiner takes the first
of them along. -/
theorem cellsAfter_append_blanks {last : Option Char} {cs : List Char} {n : Nat}
    (h : cs.getLast? ≠ some joiner) :
    cellsAfter last (cs ++ List.replicate n ' ') = cellsAfter last cs + n := by
  fun_induction cellsAfter last cs with
  | case1 => simp [cellsAfter_replicate_blank]
  | case2 => simp at h
  | case3 last d rest ih =>
    rw [List.cons_append, List.cons_append, cellsAfter, if_pos rfl]
    cases rest with
    | nil => simp [cellsAfter_replicate_blank, cellsAfter]
    | cons e rest => exact ih (by simpa using h)
  | case4 last cs _ ih =>
    rw [List.cons_append, cellsAfter_cons (by assumption), if_pos rfl]
    cases cs with
    | nil => simp [cellsAfter_replicate_blank, cellsAfter]
    | cons e rest => rw [ih (by simpa using h), Nat.add_assoc]
  | case5 last c cs hj hs hz ih =>
    rw [List.cons_append, cellsAfter_cons hj, if_neg hs, if_pos hz]
    cases cs with
    | nil => simp [cellsAfter_replicate_blank, cellsAfter]
    | cons e rest => exact ih (by simpa using h)
  | case6 last c cs hj hs hz ih =>
    rw [List.cons_append, cellsAfter_cons hj, if_neg hs, if_neg hz]
    cases cs with
    | nil => simp [cellsAfter_replicate_blank, cellsAfter]
    | cons e rest => rw [ih (by simpa using h), Nat.add_assoc]

/-- A text that is not wider than a width takes it when it is filled up. -/
theorem cells_padded {width : Nat} {cs : List Char} (h : cells cs ≤ width)
    (hj : cs.getLast? ≠ some joiner) : cells (padded width cs) = width := by
  simp only [cells] at h
  simp only [padded, cells, cellsAfter_append_blanks hj]
  omega

end FormAutomation.Terminal
