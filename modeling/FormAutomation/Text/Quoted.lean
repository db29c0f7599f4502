import FormAutomation.Text.Printable

/-!
# Quoted texts in messages

A text that a message quotes stands in single quotes, or in double quotes when
it holds a single quote and no double quote.  The quote, the backslash and what
cannot be printed are escaped.
-/

namespace FormAutomation.Text

/-- The last digits of a number in base sixteen, as many as asked for. -/
def hexDigits (count n : Nat) : List Char :=
  ((List.range count).map fun i =>
    let d := n / Nat.pow 16 i % 16
    if d < 10 then Char.ofNat (48 + d) else Char.ofNat (87 + d)).reverse

/-- A code point as what stands for it between quotes when it is not printed. -/
def escapedPoint (n : Nat) : List Char :=
  if n < 0x100 then '\\' :: 'x' :: hexDigits 2 n
  else if n < 0x10000 then '\\' :: 'u' :: hexDigits 4 n
  else '\\' :: 'U' :: hexDigits 8 n

/-- One character between quotes of a kind. -/
def quotedChar (mark c : Char) : List Char :=
  if c = mark ∨ c = '\\' then ['\\', c]
  else if c = '\n' then ['\\', 'n']
  else if c = '\r' then ['\\', 'r']
  else if c = '\t' then ['\\', 't']
  else if isPrintable c then [c]
  else escapedPoint c.toNat

/-- The kind of quotes a text is put in. -/
def quoteMark (cs : List Char) : Char :=
  if cs.contains '\'' && !cs.contains '"' then '"' else '\''

/-- A text in quotes. -/
def quoted (s : String) : String :=
  let mark := quoteMark s.toList
  String.ofList (mark :: (s.toList.flatMap (quotedChar mark) ++ [mark]))

/-! ## Code points that are no characters -/

/-- Whether a number is the code point of a character. -/
def isCharPoint (n : Nat) : Bool :=
  n < 0xD800 || (0xE000 ≤ n && n ≤ 0x10FFFF)

/-- The character of a code point; one that is no character's stands for itself as
the replacement character. -/
def charOfPoint (n : Nat) : Char :=
  if isCharPoint n then Char.ofNat n else '\uFFFD'

/-- Code points in quotes; those of no characters are escaped. -/
def quotedPoints (points : List Nat) : String :=
  let mark := quoteMark (points.map charOfPoint)
  let shown := points.flatMap fun n =>
    if isCharPoint n then quotedChar mark (Char.ofNat n) else escapedPoint n
  String.ofList (mark :: (shown ++ [mark]))

end FormAutomation.Text
