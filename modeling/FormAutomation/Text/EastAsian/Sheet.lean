/-!
# Sheets of characters

The characters of East Asian writing are numbered on sheets, by row and cell.  Most
sheets have 94 rows of 94 cells, counted from one, so that either number fits into
the printable part of seven bits; others name their rows by the first byte of a
character.
-/

namespace FormAutomation.Text.EastAsian

/-- A sheet as pieces of its rows: the row, the first cell, and the characters from
there on.  A blank stands for a cell without a character. -/
abbrev Sheet := List (Nat × Nat × String)

namespace Sheet

/-- The character of a cell. -/
def at? (sheet : Sheet) (row cell : Nat) : Option Char :=
  sheet.findSome? fun (r, first, cs) =>
    if r = row && first ≤ cell then cs.toList[cell - first]?.filter (· ≠ ' ') else none

/-- The character of a cell of a sheet of 94 rows, given the numbers of row and cell
as they stand in seven bits. -/
def inSeven? (sheet : Sheet) (a b : Nat) : Option Char :=
  if 0x20 < a && 0x20 < b && b < 0x7F then sheet.at? (a - 0x20) (b - 0x20) else none

/-- The same where both numbers have the eighth bit. -/
def inEight? (sheet : Sheet) (a b : Nat) : Option Char :=
  if 0x80 ≤ a && 0x80 ≤ b then sheet.inSeven? (a - 0x80) (b - 0x80) else none

/-- All characters of some rows, in order. -/
def characters (sheet : Sheet) (hasRow : Nat → Bool) : List Char :=
  (sheet.filter fun (row, _, _) => hasRow row).flatMap fun (_, _, cs) =>
    cs.toList.filter (· ≠ ' ')

end Sheet

/-! ## What is not on a sheet

Some sets number what a sheet lacks of a block of points: in the order of the
points, as if the sheet's characters were struck out. -/

/-- What remains of ascending numbers when others, ascending too, are struck out. -/
def struckOut : List Nat → List Nat → List Nat
  | [], _ => []
  | ns, [] => ns
  | n :: ns, m :: ms =>
    if n < m then n :: struckOut ns (m :: ms)
    else if n = m then struckOut ns ms
    else struckOut (n :: ns) ms
termination_by ns ms => ns.length + ms.length

/-- The points of a block that are not among some characters. -/
def remaining (first count : Nat) (held : List Char) : Array Char :=
  ((struckOut ((List.range count).map (first + ·)) ((held.map Char.toNat).mergeSort)).map
    Char.ofNat).toArray

end FormAutomation.Text.EastAsian
