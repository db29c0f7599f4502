import FormAutomation.Text.EastAsian.Big5
import FormAutomation.Text.EastAsian.Gb2312
import FormAutomation.Text.EastAsian.Gbk
import FormAutomation.Text.EastAsian.HongKong
import FormAutomation.Text.EastAsian.Reading

/-!
# Sets for Chinese

On the mainland GB 2312 grew into GBK and that into GB 18030, which has every code
point: what takes no two bytes takes four.  On Taiwan and in Hong Kong Big5 was
extended.
-/

namespace FormAutomation.Text.EastAsian

/-! ## The mainland -/

/-- A character of GB 2312. -/
def findGb2312 (a b : Nat) : Option (List Char) :=
  (gb2312.inEight? a b).map ([·])

/-- The place of a second byte among those from `0x40` to `0xFE` without `0x7F`. -/
def gbkCell? (b : Nat) : Option Nat :=
  if 0x40 ≤ b && b < 0x7F then some (b - 0x40)
  else if 0x80 ≤ b && b < 0xFF then some (b - 0x41)
  else none

/-- The ideographs of the first block that GB 2312 lacks. -/
def otherIdeographs : Array Char :=
  remaining 0x4E00 20902 (gb2312.characters fun _ => true)

/-- An ideograph that GB 2312 lacks: they fill the rows before it from end to end,
and of the rows beside it the part before its cells. -/
def otherIdeograph? (a cell : Nat) : Option Char :=
  if 0x81 ≤ a && a ≤ 0xA0 then otherIdeographs[190 * (a - 0x81) + cell]?
  else if 0xAA ≤ a && a ≤ 0xFE && cell < 96 then otherIdeographs[6080 + 96 * (a - 0xAA) + cell]?
  else none

/-- A character of GBK. -/
def gbk? (a b : Nat) : Option Char := do
  let cell ← gbkCell? b
  gbkSigns.at? a cell <|> gb2312.inEight? a b <|> otherIdeograph? a cell

/-- A character of GBK. -/
def findGbk (a b : Nat) : Option (List Char) :=
  (gbk? a b).map ([·])

/-- A point for private use: three areas of cells have them in order. -/
def privatePoint? (a cell : Nat) : Option Char :=
  if 96 ≤ cell && 0xAA ≤ a && a ≤ 0xAF then
    some (Char.ofNat (0xE000 + 94 * (a - 0xAA) + (cell - 96)))
  else if 96 ≤ cell && 0xF8 ≤ a && a ≤ 0xFE then
    some (Char.ofNat (0xE234 + 94 * (a - 0xF8) + (cell - 96)))
  else if cell < 96 && 0xA1 ≤ a && a ≤ 0xA7 then
    some (Char.ofNat (0xE4C6 + 96 * (a - 0xA1) + cell))
  else none

/-- A character of two bytes of GB 18030. -/
def gb18030? (a b : Nat) : Option Char := do
  let cell ← gbkCell? b
  gb18030Signs.at? a cell <|> gbk? a b <|> privatePoint? a cell

/-- The point of a run that a number falls into: the last run that starts at it or
before. -/
def pointInRuns? (runs : List (Nat × Nat)) (n : Nat) : Option Nat :=
  (runs.takeWhile (·.1 ≤ n)).getLast?.map fun (first, point) => point + (n - first)

/-- A character of four bytes of GB 18030: they count through the points that take no
two bytes, those below `0x10000` first. -/
def fourBytes? (a b c d : Nat) : Option Char :=
  if a < 0x81 || 0xFE < a || c < 0x81 || 0xFE < c || d < 0x30 || 0x39 < d then none
  else
    let rest := ((b - 0x30) * 126 + (c - 0x81)) * 10 + (d - 0x30)
    if a - 0x81 < 4 then
      let n := (a - 0x81) * 12600 + rest
      if n < fourByteCount then (pointInRuns? fourByteRuns n).map Char.ofNat else none
    else if 15 ≤ a - 0x81 then
      let n := 0x10000 + (a - 0x90) * 12600 + rest
      if n ≤ 0x10FFFF then some (Char.ofNat n) else none
    else none

/-- What stands at the head of bytes in GB 18030; a digit as the second byte tells
that there are four. -/
def gb18030Head (_state : Unit) (byte : UInt8) (bytes : List UInt8) : Head Unit :=
  if byte < 0x80 then .characters [Char.ofNat byte.toNat] 0 ()
  else
    match bytes with
    | [] => .cut
    | second :: others =>
      if 0x30 ≤ second && second ≤ 0x39 then
        match others with
        | third :: fourth :: _ =>
          match fourBytes? byte.toNat second.toNat third.toNat fourth.toNat with
          | some c => .characters [c] 3 ()
          | none => .flaw 0
        | _ => .cut
      else
        match gb18030? byte.toNat second.toNat with
        | some c => .characters [c] 1 ()
        | none => .flaw 0

/-! ## Seven bits

In seven bits GB 2312 stands between marks of a tilde and a brace.  A tilde that is
meant is written twice, and one at the end of a line joins it to the next. -/

/-- What stands at the head of bytes; the state tells whether a mark has opened
GB 2312. -/
def tildeHead (isOpen : Bool) (byte : UInt8) (bytes : List UInt8) : Head Bool :=
  if byte = 0x7E then
    match isOpen, bytes with
    | _, [] => .cut
    | false, 0x7E :: _ => .characters ['~'] 1 false
    | false, 0x7B :: _ => .characters [] 1 true
    | false, 0x0A :: _ => .characters [] 1 false
    | true, 0x7D :: _ => .characters [] 1 false
    | _, _ => .flaw 0
  else if 0x80 ≤ byte then .flaw 0
  else if isOpen then
    match bytes with
    | [] => .cut
    | second :: _ =>
      match gb2312.inSeven? byte.toNat second.toNat with
      | some c => .characters [c] 1 true
      | none => .flaw 0
  else .characters [Char.ofNat byte.toNat] 0 false

/-! ## Taiwan and Hong Kong -/

/-- The place of a second byte among those of Big5. -/
def big5Cell? (b : Nat) : Option Nat :=
  if 0x40 ≤ b && b < 0x7F then some (b - 0x40)
  else if 0xA1 ≤ b && b < 0xFF then some (b - 0x62)
  else none

/-- A character of Big5. -/
def findBig5 (a b : Nat) : Option (List Char) := do
  let cell ← big5Cell? b
  (big5.at? a cell).map ([·])

/-- A character of Big5 as on windows. -/
def findBig5Windows (a b : Nat) : Option (List Char) := do
  let cell ← big5Cell? b
  (big5Windows.at? a cell <|> big5.at? a cell).map ([·])

/-- Whether Hong Kong has put characters of its own in the place of Big5. -/
def isReplaced (a cell : Nat) : Bool :=
  a == 0xC7 || a == 0xC8 || a == 0xC6 && 63 ≤ cell

/-- What is written in Hong Kong. -/
def findHongKong (a b : Nat) : Option (List Char) := do
  let cell ← big5Cell? b
  let pair? := (hongKongPairs.find? fun (lead, second, _) => lead = a && second = b).map
    fun (_, _, cs) => cs.toList
  let old? := if isReplaced a cell then none else big5.at? a cell
  pair? <|> (hongKong.at? a cell <|> old?).map ([·])

end FormAutomation.Text.EastAsian
