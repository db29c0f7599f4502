import FormAutomation.Terminal.Cells
import FormAutomation.Terminal.Emoji
import FormAutomation.Text.Blank
import FormAutomation.Text.Split

/-!
# Lines of a width

A text that is wider than its place is broken into lines, between words where it
can be.  A word takes the blanks after it along.  One that fits on no line is
either folded over several lines or cut, with an ellipsis in the last cell.
-/

namespace FormAutomation.Terminal

open Text

/-- What happens to a word that fits on no line. -/
inductive Overflow where
  /-- it goes on in the next line -/
  | fold
  /-- it is cut -/
  | ellipsis
  deriving DecidableEq

/-- Where the lines of a text stand in their place. -/
inductive Alignment where
  /-- as they are -/
  | natural
  /-- at the left, filled up with blanks -/
  | left
  /-- in the middle -/
  | center
  /-- at the right -/
  | right
  deriving DecidableEq

/-! ## Breaking -/

theorem length_dropWhile_le (p : Char → Bool) (cs : List Char) :
    (cs.dropWhile p).length ≤ cs.length :=
  (List.dropWhile_sublist p).length_le

/-- What comes after a word is shorter than what it was taken from. -/
theorem length_after_word_lt {cs : List Char}
    (h : (cs.dropWhile isBlank).takeWhile (fun c => !isBlank c) ≠ []) :
    (((cs.dropWhile isBlank).dropWhile fun c => !isBlank c).dropWhile isBlank).length
      < cs.length := by
  have split := congrArg List.length
    (List.takeWhile_append_dropWhile (p := fun c => !isBlank c) (l := cs.dropWhile isBlank))
  rw [List.length_append] at split
  have positive := List.length_pos_iff.mpr h
  have first := length_dropWhile_le isBlank cs
  have last := length_dropWhile_le isBlank ((cs.dropWhile isBlank).dropWhile fun c => !isBlank c)
  omega

/-- The words of a text: each with the blanks after it, the first also with
those before it. -/
def words (cs : List Char) : List (List Char) :=
  let rest := cs.dropWhile isBlank
  let word := rest.takeWhile fun c => !isBlank c
  let after := rest.dropWhile fun c => !isBlank c
  if _ : word = [] then []
  else (cs.takeWhile isBlank ++ word ++ after.takeWhile isBlank) :: words (after.dropWhile isBlank)
termination_by cs.length
decreasing_by exact length_after_word_lt ‹_›

/-- Graphemes in lines of a width.  Given is the line so far and the cells that
it takes; a line that takes none at the end is left out. -/
def folded (width used : Nat) (line : List Char) : List Grapheme → List (List Char)
  | [] => if used = 0 then [] else [line]
  | grapheme :: rest =>
    if width < used + grapheme.cells then line :: folded width grapheme.cells grapheme.text rest
    else folded width (used + grapheme.cells) (line ++ grapheme.text) rest

/-- The positions at which pieces start that follow each other. -/
def starts (position : Nat) : List (List Char) → List Nat
  | [] => []
  | piece :: rest => position :: starts (position + piece.length) rest

/-- The positions at which a text is broken: given are the position of the next
word, the cells that the line has so far, and the words to come. -/
def breaks (width : Nat) (overflow : Overflow) : Nat → Nat → List (List Char) → List Nat
  | _, _, [] => []
  | position, used, word :: rest =>
    let size := cells (dropRightWhile isBlank word)
    let next := position + word.length
    if used + size ≤ width then breaks width overflow next (used + cells word) rest
    else if width < size then
      match overflow with
      | .fold =>
        let pieces := folded width 0 [] (graphemes word)
        (starts position pieces).filter (· ≠ 0)
          ++ breaks width overflow next (cells (pieces.getLast?.getD [])) rest
      | .ellipsis =>
        [position].filter (· ≠ 0) ++ breaks width overflow next (cells word) rest
    else if used ≠ 0 ∧ position ≠ 0 then
      position :: breaks width overflow next (cells word) rest
    else breaks width overflow next used rest

/-- The parts of a text between positions; the text starts at the first given. -/
def cutAt (position : Nat) : List Nat → List Char → List (List Char)
  | [], cs => [cs]
  | stop :: rest, cs => cs.take (stop - position) :: cutAt stop rest (cs.drop (stop - position))

/-- The distance of the places to which tabs go. -/
def tabWidth : Nat := 8

/-- The next place to which a tab goes. -/
def tabStop (used : Nat) : Nat :=
  (used + tabWidth - 1) / tabWidth * tabWidth

/-- Parts of a line with blanks in the place of the tabs between them, at least
one for each; some cells of the line are used already. -/
def untabbed (used : Nat) : List (List Char) → List Char
  | [] => []
  | [part] => part
  | part :: rest =>
    let part := part ++ [' ']
    let used := used + cells part
    part ++ List.replicate (tabStop used - used) ' ' ++ untabbed (tabStop used) rest

/-- A line with blanks in the place of tabs. -/
def withoutTabs (line : List Char) : List Char :=
  untabbed 0 (splitOn '\t' line)

/-- A line without the blanks at its end that stand beyond a length. -/
def trimBeyond (length : Nat) (line : List Char) : List Char :=
  let blanks := line.length - (dropRightWhile isBlank line).length
  line.take (line.length - min blanks (line.length - length))

/-- A line that is too wide, cut. -/
def cut (width : Nat) (overflow : Overflow) (line : List Char) : List Char :=
  if cells line ≤ width then line
  else
    match overflow with
    | .fold => resized width line
    | .ellipsis => resized (width - 1) line ++ ['…']

/-- A line in its place. -/
def aligned (width : Nat) (overflow : Overflow) (alignment : Alignment) (line : List Char) :
    List Char :=
  let trimmed := cut width overflow (dropRightWhile isBlank line)
  let space := width - cells trimmed
  match alignment with
  | .natural => cut width overflow line
  | .left => padded width (cut width overflow line)
  | .center => padded width (List.replicate (space / 2) ' ' ++ trimmed)
  | .right => List.replicate space ' ' ++ trimmed

/-- The lines of a text in a place of some width. -/
def wrapped (width : Nat) (overflow : Overflow) (alignment : Alignment) (text : List Char) :
    List (List Char) :=
  (splitOn '\n' text).flatMap fun line =>
    let line := withoutTabs line
    (cutAt 0 (breaks width overflow 0 0 (words line)) line).map fun part =>
      aligned width overflow alignment (trimBeyond width part)

/-! ## Widths -/

/-- Whether the character ends a line when the width of a text is taken. -/
def isLineEnd (c : Char) : Bool :=
  c == '\n' || (0x1C ≤ c.toNat && c.toNat ≤ 0x1E) || c == '\u0085' || c == '\u2028'
    || c == '\u2029'

/-- The parts of a text between characters of a class. -/
def partsBetween (p : Char → Bool) : List Char → List (List Char)
  | [] => [[]]
  | c :: cs =>
    if p c then [] :: partsBetween p cs
    else
      match partsBetween p cs with
      | [] => [[c]]
      | first :: rest => (c :: first) :: rest

/-- The width of the widest of some texts. -/
def widest (texts : List (List Char)) : Nat :=
  (texts.map cells).foldl max 0

/-- The width that a text takes when it is not broken. -/
def naturalWidth (text : List Char) : Nat :=
  widest (partsBetween isLineEnd text)

/-- The characters that a terminal does not show: bell, backspace, line and page
feeds, and the return of the carriage. -/
def isControl (c : Char) : Bool :=
  [7, 8, 11, 12, 13].contains c.toNat

/-- A text without the characters that are not shown. -/
def shown (text : List Char) : List Char :=
  text.filter fun c => !isControl c

/-- A text without markup as it is printed on a terminal of some width; where
there is no room nothing is. -/
def printed (width : Nat) (text : String) : String :=
  let shown := shown (Emoji.pictured text.toList)
  if width = 0 then ""
  else
    String.join ((wrapped width .fold .natural shown).map fun line => String.ofList line ++ "\n")

end FormAutomation.Terminal
