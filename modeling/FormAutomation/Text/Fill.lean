/-!
# Filling lines

A text is set in lines of a width.  Lines end between words, or after a hyphen
inside a word; the blanks where a line ends are left out.  A word that is longer
than a line is cut where its line ends, whatever stands in that line already.
-/

namespace FormAutomation.Text

/-- The first piece that lines are filled with, and what follows: blanks, or a
word up to a hyphen with two letters on either side. -/
def takePiece : List Char → List Char × List Char
  | [] => ([], [])
  | ' ' :: cs => (' ' :: cs.takeWhile (· = ' '), cs.dropWhile (· = ' '))
  | a :: ' ' :: cs => ([a], ' ' :: cs)
  | a :: b :: '-' :: c :: d :: cs =>
    if a.isAlpha && b.isAlpha && c.isAlpha && d.isAlpha then ([a, b, '-'], c :: d :: cs)
    else
      let (piece, rest) := takePiece (b :: '-' :: c :: d :: cs)
      (a :: piece, rest)
  | a :: cs =>
    let (piece, rest) := takePiece cs
    (a :: piece, rest)

theorem takePiece_append (cs : List Char) : (takePiece cs).1 ++ (takePiece cs).2 = cs := by
  fun_induction takePiece cs with
  | case2 => simp
  | _ => simp_all

theorem takePiece_ne_nil {cs : List Char} (h : cs ≠ []) : (takePiece cs).1 ≠ [] := by
  fun_cases takePiece cs with
  | case1 => exact absurd rfl h
  | _ => simp

/-- The pieces that lines are filled with, in order. -/
def pieces (cs : List Char) : List (List Char) :=
  if _h : cs = [] then []
  else (takePiece cs).1 :: pieces (takePiece cs).2
termination_by cs.length
decreasing_by
  have hl := congrArg List.length (takePiece_append cs)
  have hp := List.length_pos_iff.2 (takePiece_ne_nil ‹_›)
  rw [List.length_append] at hl
  omega

/-- Whether a piece shows nothing. -/
def isBlankPiece (piece : List Char) : Bool :=
  piece.all (· = ' ')

/-- A line from its pieces, the last of which comes first: blanks at its end are
left out. -/
def closed : List (List Char) → List (List Char)
  | [] => []
  | piece :: before =>
    let kept := if isBlankPiece piece then before else piece :: before
    if kept.isEmpty then [] else [kept.reverse.flatten]

/-- Lines of a width from pieces; given are the pieces that stand in the line so
far, the last first, and whether there are lines above it. -/
def fillFrom (width : Nat) (line : List (List Char)) (above : Bool) :
    List (List Char) → List (List Char)
  | [] => closed line
  | piece :: rest =>
    if above && line.isEmpty && isBlankPiece piece then fillFrom width [] above rest
    else if _h : line.flatten.length + piece.length ≤ width then
      fillFrom width (piece :: line) above rest
    else if _h : piece.length ≤ width then
      let lines := closed line
      lines ++ fillFrom width [] (above || !lines.isEmpty) (piece :: rest)
    else
      let free := max width 1 - line.flatten.length
      let lines := closed (piece.take free :: line)
      lines ++ fillFrom width [] (above || !lines.isEmpty) (piece.drop free :: rest)
termination_by pieces => (pieces.flatten.length + pieces.length, line.length)
decreasing_by
  · simp_wf
    omega
  · simp_wf
    omega
  · cases line with
    | nil => simp_all
    | cons => simp_wf; omega
  · cases line with
    | nil =>
      simp_wf
      omega
    | cons =>
      simp_wf
      omega

/-- A text in lines of a width. -/
def fill (width : Nat) (text : String) : List String :=
  (fillFrom width [] false (pieces text.toList)).map String.ofList

end FormAutomation.Text
