import FormAutomation.Text.Ranges

/-!
# White space

*Blank* characters are the white space of every script, the four separator
controls `U+001C`–`U+001F` included.  Numerals are trimmed of a smaller set, in
which those four are ordinary characters.
-/

namespace FormAutomation.Text

/-- White space. -/
def blankRanges : Ranges :=
  [(0x9, 0xD), (0x1C, 0x20), (0x85, 0x85), (0xA0, 0xA0), (0x1680, 0x1680), (0x2000, 0x200A),
   (0x2028, 0x2029), (0x202F, 0x202F), (0x205F, 0x205F), (0x3000, 0x3000)]

/-- Whether the character is white space. -/
def isBlank (c : Char) : Bool :=
  blankRanges.contains c

/-- Whether the character is white space around a numeral. -/
def isNumeralBlank (c : Char) : Bool :=
  isBlank c && !(0x1C ≤ c.toNat && c.toNat ≤ 0x1F)

/-- The list without the characters of a class at its end. -/
def dropRightWhile (p : Char → Bool) (cs : List Char) : List Char :=
  (cs.reverse.dropWhile p).reverse

/-- The list without the characters of a class at both ends. -/
def trimWhile (p : Char → Bool) (cs : List Char) : List Char :=
  dropRightWhile p (cs.dropWhile p)

/-- The text without the white space at both ends. -/
def trim (s : String) : String :=
  String.ofList (trimWhile isBlank s.toList)

end FormAutomation.Text
