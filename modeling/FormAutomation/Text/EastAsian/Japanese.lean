import FormAutomation.Text.EastAsian.JapaneseWindows
import FormAutomation.Text.EastAsian.Jis208
import FormAutomation.Text.EastAsian.Jis212
import FormAutomation.Text.EastAsian.Jis213
import FormAutomation.Text.EastAsian.Reading

/-!
# Sets for Japanese

There are two ways to put the sheets into bytes.  In one, both numbers of a
character have the eighth bit, and a byte of its own shifts to another sheet.  In
the other, two rows share a first byte, so that room remains for narrow syllables of
one byte.
-/

namespace FormAutomation.Text.EastAsian

/-- Which sheets a set has. -/
inductive Sheets where
  /-- JIS X 0208, and perhaps JIS X 0212 -/
  | old
  /-- JIS X 0213 as issued in the year 2000 -/
  | issue2000
  /-- JIS X 0213 as issued in the year 2004 -/
  | issue2004
  deriving DecidableEq

/-- The narrow syllable of a byte from `0xA1` to `0xDF`. -/
def narrow (n : Nat) : Char :=
  Char.ofNat (0xFEC0 + n)

/-- A character of JIS X 0208; the bytes have seven bits. -/
def findJis208 (a b : Nat) : Option (List Char) :=
  (jis208.inSeven? a b).map ([·])

/-- A character of the first plane. -/
def firstPlane (sheets : Sheets) (a b : Nat) : Option (List Char) :=
  let pair? := (jis213Pairs.find? fun (row, cell, _) => row + 0x20 = a && cell + 0x20 = b).map
    fun (_, _, cs) => cs.toList
  let single? := (jis208.inSeven? a b <|> jis213First.inSeven? a b).map ([·])
  match sheets with
  | .old => findJis208 a b
  | .issue2000 => if jis213Later.contains (a - 0x20, b - 0x20) then none else single? <|> pair?
  | .issue2004 => single? <|> pair?

/-- A character of the second plane; one cell has been given another form. -/
def secondPlane (sheets : Sheets) (a b : Nat) : Option (List Char) :=
  match sheets with
  | .old => none
  | .issue2000 => if a = 0x7D && b = 0x3B then some ['鬝'] else (jis213Second.inSeven? a b).map ([·])
  | .issue2004 => (jis213Second.inSeven? a b).map ([·])

/-- Whether two bytes, in seven bits, are a cell that a set lacks but the issue after it
has; they are one flaw. -/
def isLater (sheets : Sheets) (a b : Nat) : Bool :=
  sheets == .issue2000 && jis213Later.contains (a - 0x20, b - 0x20)

/-- A wide tilde made narrow, as some sets have it. -/
def narrowTilde (c : Char) : Char :=
  if c = '～' then '~' else c

/-- A wide backslash made narrow. -/
def narrowBackslash (c : Char) : Char :=
  if c = '＼' then '\\' else c

/-! ## Eight bits -/

/-- What stands at the head of bytes whose eighth bit is set: `0x8E` shifts to a narrow
syllable, `0x8F` to JIS X 0212 or the second plane. -/
def eightHead (sheets : Sheets) (_state : Unit) (byte : UInt8) (bytes : List UInt8) : Head Unit :=
  if byte < 0x80 then .characters [Char.ofNat byte.toNat] 0 ()
  else if byte = 0x8E then
    match bytes with
    | [] => .cut
    | second :: _ =>
      if 0xA1 ≤ second && second ≤ 0xDF then .characters [narrow second.toNat] 1 () else .flaw 0
  else if byte = 0x8F then
    match bytes with
    | second :: third :: _ =>
      let find := do
        let a ← if 0x80 ≤ second then some (second.toNat - 0x80) else none
        let b ← if 0x80 ≤ third then some (third.toNat - 0x80) else none
        secondPlane sheets a b <|> (jis212.inSeven? a b).map ([·])
      match find with
      | some cs => .characters cs 2 ()
      | none => .flaw 0
    | _ => .cut
  else
    match bytes with
    | [] => .cut
    | second :: _ =>
      let (a, b) := (byte.toNat - 0x80, second.toNat - 0x80)
      match if 0x80 ≤ second then firstPlane sheets a b else none with
      | some cs => .characters cs 1 ()
      | none => .flaw (if isLater sheets a b then 1 else 0)

/-! ## Shifted rows -/

/-- The place of a second byte among those of two rows. -/
def shiftedCell? (b : Nat) : Option Nat :=
  if 0x40 ≤ b && b < 0x7F then some (b - 0x40)
  else if 0x80 ≤ b && b < 0xFD then some (b - 0x41)
  else none

/-- The row, counted from zero over both planes, and cell of two bytes. -/
def shifted? (a b : Nat) : Option (Nat × Nat) := do
  let cell ← shiftedCell? b
  let pair ←
    if 0x81 ≤ a && a ≤ 0x9F then some (a - 0x81)
    else if 0xE0 ≤ a && a ≤ 0xFC then some (a - 0xC1)
    else none
  some (2 * pair + (if cell < 94 then 0 else 1), cell % 94)

/-- The row of the second plane, in seven bits, that follows a hundred rows or so. -/
def secondPlaneRow (row : Nat) : Nat :=
  if 0x67 ≤ row then row + 7
  else if 0x63 ≤ row || row = 0x5F then row - 0x37
  else row - 0x3D

/-- A character of shifted rows. -/
def findShifted (sheets : Sheets) (a b : Nat) : Option (List Char) := do
  let (row, cell) ← shifted? a b
  if row < 94 then
    let found := firstPlane sheets (row + 0x21) (cell + 0x21)
    if sheets = .old then found else found.map (·.map (narrowBackslash ∘ narrowTilde))
  else secondPlane sheets (secondPlaneRow row) (cell + 0x21)

/-- What stands at the head of bytes of shifted rows.  In the newer sets two bytes of
ASCII are other signs. -/
def shiftedHead (sheets : Sheets) (state : Unit) (byte : UInt8) (bytes : List UInt8) : Head Unit :=
  if sheets ≠ .old && byte = 0x5C then .characters ['¥'] 0 ()
  else if sheets ≠ .old && byte = 0x7E then .characters ['‾'] 0 ()
  else if 0xA1 ≤ byte && byte ≤ 0xDF then .characters [narrow byte.toNat] 0 ()
  else if byte = 0x80 || byte = 0xA0 || 0xFD ≤ byte then .flaw 0
  else
    let later := (bytes.head?.bind fun second => shifted? byte.toNat second.toNat).any
      fun (row, cell) => isLater sheets (row + 0x21) (cell + 0x21)
    if later then .flaw 1 else pairHead (findShifted sheets) state byte bytes

/-- A character of shifted rows as on windows; ten rows are for private use. -/
def findShiftedWindows (a b : Nat) : Option (List Char) := do
  let cell ← shiftedCell? b
  let private? :=
    if 0xF0 ≤ a && a ≤ 0xF9 then some (Char.ofNat (0xE000 + 188 * (a - 0xF0) + cell)) else none
  (japaneseWindows.at? a cell <|> private?).map ([·]) <|> findShifted .old a b

/-- What stands at the head of bytes as on windows. -/
def windowsHead (state : Unit) (byte : UInt8) (bytes : List UInt8) : Head Unit :=
  if byte = 0x80 then .characters ['\u0080'] 0 ()
  else if byte = 0xA0 then .characters ['\uF8F0'] 0 ()
  else if 0xA1 ≤ byte && byte ≤ 0xDF then .characters [narrow byte.toNat] 0 ()
  else if 0xFD ≤ byte then .characters [Char.ofNat (0xF7F4 + byte.toNat)] 0 ()
  else pairHead findShiftedWindows state byte bytes

end FormAutomation.Text.EastAsian
