import FormAutomation.Terminal.Markup

/-!
# Tables

A table has a title, columns with headings, and rows of cells, all of them text
with markup.  A column is as wide as its widest cell and a blank at each side.
When the table is wider than the terminal, its widest columns give way until it
fits or all are equally wide; then all give way alike.
-/

namespace FormAutomation.Terminal

/-- A column. -/
structure Column where
  /-- its heading -/
  heading : String
  /-- where its cells stand -/
  alignment : Alignment := .left

/-- A table. -/
structure Table where
  /-- its title -/
  title : String
  /-- its columns -/
  columns : List Column
  /-- its rows, a cell for each column -/
  rows : List (List String)

namespace Table

/-! ## Widths -/

/-- Widths taken together. -/
def total : List Nat → Nat
  | [] => 0
  | width :: widths => width + total widths

/-- The blanks around a cell. -/
def padding : Nat := 2

/-- The width of a cell with the blanks around it, in a place of some width. -/
def cellWidth (place : Nat) (text : List Char) : Nat :=
  if place ≤ padding then place else min place (naturalWidth text + padding)

/-- The width of a column of cells in a place of some width. -/
def columnWidth (place : Nat) (texts : List (List Char)) : Nat :=
  min place ((texts.map (cellWidth place)).foldl max 0)

/-- The whole number next to a quotient; of two that are as near the even one. -/
def nearest (n d : Nat) : Nat :=
  let low := n / d
  let rest := 2 * (n % d)
  if rest < d then low
  else if d < rest then low + 1
  else if low % 2 = 0 then low
  else low + 1

/-- Widths from which a total is taken away.  Given for each is whether it takes
part, and the most that may be taken; those that take part share alike. -/
def share (total : Nat) : List (Bool × Nat × Nat) → List Nat
  | [] => []
  | (takesPart, most, width) :: rest =>
    if takesPart then
      let sharing := (rest.filter (·.1)).length + 1
      let taken := min most (nearest total sharing)
      (width - taken) :: share (total - taken) rest
    else width :: share total rest

/-- Widths of which the widest were made narrower by the excess over a limit, but
not narrower than the next. -/
def narrowWidest (limit : Nat) (widths : List Nat) : List Nat :=
  let excess := total widths - limit
  let most := widths.foldl max 0
  let next := (widths.filter (· ≠ most)).foldl max 0
  share excess (widths.map fun width => (width == most, min excess (most - next), width))

/-- Widths of which the widest were made narrower again and again. -/
def narrowed (limit : Nat) : Nat → List Nat → List Nat
  | 0, widths => widths
  | fuel + 1, widths =>
    if limit < total widths then narrowed limit fuel (narrowWidest limit widths) else widths

/-- The widths of columns of cells on a terminal that has some width for them. -/
def columnWidths (limit : Nat) (columns : List (List (List Char))) : List Nat :=
  let natural := columns.map fun texts => max 1 (columnWidth limit texts)
  if total natural ≤ limit then natural
  else
    let widths := narrowed limit (total natural) natural
    let widths := share (total widths - limit) (widths.map fun width => (width != 0, width, width))
    List.zipWith columnWidth widths columns

/-! ## Lines -/

/-- The lines of a cell. -/
def cellLines (width : Nat) (alignment : Alignment) (text : List Char) : List (List Char) :=
  if width ≤ padding then []
  else
    (wrapped (width - padding) .ellipsis alignment text).map fun line =>
      ' ' :: resized (width - padding) line ++ [' ']

/-- The lines of a cell, filled up with blank ones to a height. -/
def filledUp (atTop : Bool) (width height : Nat) (lines : List (List Char)) :
    List (List Char) :=
  let blank := List.replicate (height - lines.length) (List.replicate width ' ')
  if atTop then blank ++ lines else lines ++ blank

/-- A line of parts with characters before, between and after them. -/
def ruled (left between right : Char) (parts : List (List Char)) : List Char :=
  left :: ([between].intercalate parts ++ [right])

/-- The lines of a row; those of a heading stand at the bottom. -/
def rowLines (bar : Char) (isHeading : Bool) (widths : List Nat) (columns : List Column)
    (texts : List (List Char)) : List (List Char) :=
  let cells := (widths.zip (columns.zip texts)).map fun (width, column, text) =>
    (width, cellLines width column.alignment text)
  let height := (cells.map (·.2.length)).foldl max 1
  let cells := cells.map fun (width, lines) => filledUp isHeading width height lines
  (List.range height).map fun i => ruled bar bar bar (cells.map fun lines => lines[i]?.getD [])

/-- A line that is drawn. -/
def drawn (left line between right : Char) (widths : List Nat) : List Char :=
  ruled left between right (widths.map fun width => List.replicate width line)

/-- The lines of a table on a terminal of some width; given are the texts that
show, by rows. -/
def lines (table : Table) (width : Nat) (title : List Char) (headings : List (List Char))
    (rows : List (List (List Char))) : List (List Char) :=
  let extra := table.columns.length + 1
  let texts := (headings :: rows)
  let columns := (List.range table.columns.length).map fun i =>
    texts.map fun row => row[i]?.getD []
  let widths := columnWidths (width - extra) columns
  wrapped (total widths + extra) .fold .center title
    ++ [drawn '┏' '━' '┳' '┓' widths]
    ++ rowLines '┃' true widths table.columns headings
    ++ [drawn '┡' '━' '╇' '┩' widths]
    ++ rows.flatMap (rowLines '│' false widths table.columns)
    ++ [drawn '└' '─' '┴' '┘' widths]

/-- The texts that show of the cells of a column; where there is no room for any
cell they are not read. -/
def visible (limit : Nat) (texts : List String) : Except Markup.Fault (List (List Char)) :=
  if limit ≤ padding then .ok [] else texts.mapM Markup.visible

/-- The cells of a column, its heading first. -/
def columnTexts (table : Table) (i : Nat) : List String :=
  ((table.columns[i]?.map (·.heading)).getD "") :: table.rows.map fun row => row[i]?.getD ""

/-- A table as it is printed on a terminal of some width.  Columns are read one
after the other, and the title last; where there is no room nothing is. -/
def printed (table : Table) (width : Nat) : Except Markup.Fault String := do
  if width = 0 then return ""
  let limit := width - (table.columns.length + 1)
  let columns ← (List.range table.columns.length).mapM fun i =>
    visible limit (table.columnTexts i)
  let title ← Markup.visible table.title
  let row (i : Nat) : List (List Char) := columns.map fun texts => texts[i]?.getD []
  let rows := (List.range table.rows.length).map fun i => row (i + 1)
  return String.join ((table.lines width title (row 0) rows).map fun line =>
    String.ofList (if cells line ≤ width then line else resized width line) ++ "\n")

end Table

end FormAutomation.Terminal
