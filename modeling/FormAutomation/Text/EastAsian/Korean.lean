import FormAutomation.Text.EastAsian.Ks1001
import FormAutomation.Text.EastAsian.Reading

/-!
# Sets for Korean

A syllable is a first sound, a vowel and perhaps a last sound, and the code points
of syllables count through them.  KS X 1001 has the syllables in common use; one set
spells the others out, one numbers them on, and one writes every syllable by its
sounds.
-/

namespace FormAutomation.Text.EastAsian

/-- The point of a syllable. -/
def syllable (first vowel last : Nat) : Char :=
  Char.ofNat (0xAC00 + 588 * first + 28 * vowel + last)

/-- The first sounds, by the cells of the fourth row of KS X 1001 from the first
consonant on. -/
def firstSounds : List (Option Nat) :=
  [some 0, some 1, none, some 2, none, none, some 3, some 4, some 5, none, none, none, none, none,
   none, none, some 6, some 7, some 8, none, some 9, some 10, some 11, some 12, some 13, some 14,
   some 15, some 16, some 17, some 18]

/-- The last sounds, by the same cells. -/
def lastSounds : List (Option Nat) :=
  [some 1, some 2, some 3, some 4, some 5, some 6, some 7, none, some 8, some 9, some 10, some 11,
   some 12, some 13, some 14, some 15, some 16, some 17, none, some 18, some 19, some 20, some 21,
   some 22, none, some 23, some 24, some 25, some 26, some 27]

/-- The syllable that three letters spell; no last sound is written as the sign that
also opens the spelling. -/
def spelled? (first vowel last : Nat) : Option Char := do
  let first ← if 0xA1 ≤ first then (firstSounds[first - 0xA1]?).join else none
  let vowel ← if 0xBF ≤ vowel && vowel ≤ 0xD3 then some (vowel - 0xBF) else none
  let last ←
    if last = 0xD4 then some 0
    else if 0xA1 ≤ last then (lastSounds[last - 0xA1]?).join
    else none
  some (syllable first vowel last)

/-- A character of KS X 1001. -/
def findKs1001 (a b : Nat) : Option (List Char) :=
  (ks1001.inEight? a b).map ([·])

/-- What stands at the head of bytes where other syllables are spelled out: a sign,
and three letters. -/
def spellingHead (state : Unit) (byte : UInt8) (bytes : List UInt8) : Head Unit :=
  match byte, bytes with
  | 0xA4, 0xD4 :: rest =>
    match rest with
    | 0xA4 :: first :: 0xA4 :: vowel :: 0xA4 :: last :: _ =>
      match spelled? first.toNat vowel.toNat last.toNat with
      | some c => .characters [c] 7 state
      | none => .flaw 0
    | _ => if rest.length < 6 then .cut else .flaw 0
  | _, _ => pairHead findKs1001 state byte bytes

/-! ## Windows -/

/-- The syllables that KS X 1001 lacks. -/
def otherSyllables : Array Char :=
  remaining 0xAC00 11172 (ks1001.characters fun row => 16 ≤ row && row ≤ 40)

/-- The place of a second byte among the letters of ASCII and the bytes from `0x81`. -/
def windowsCell? (b : Nat) : Option Nat :=
  if 0x41 ≤ b && b ≤ 0x5A then some (b - 0x41)
  else if 0x61 ≤ b && b ≤ 0x7A then some (b - 0x47)
  else if 0x81 ≤ b && b ≤ 0xFE then some (b - 0x4D)
  else none

/-- A syllable that KS X 1001 lacks: they fill the rows before it, and of the rows
beside it the part before its cells. -/
def otherSyllable? (a b : Nat) : Option Char := do
  let cell ← windowsCell? b
  if 0x81 ≤ a && a ≤ 0xA0 then otherSyllables[178 * (a - 0x81) + cell]?
  else if 0xA1 ≤ a && a ≤ 0xC6 && cell < 84 then otherSyllables[5696 + 84 * (a - 0xA1) + cell]?
  else none

/-- A character as on windows. -/
def findKoreanWindows (a b : Nat) : Option (List Char) :=
  (ks1001.inEight? a b <|> otherSyllable? a b).map ([·])

/-! ## By sounds

Two bytes hold five bits for each sound.  A sound may be left out, which gives a
letter alone, but there are no syllables that lack one. -/

/-- What five bits say of a sound. -/
inductive Sound where
  /-- that it is left out -/
  | absent
  /-- which one it is, and the point of its letter -/
  | present (index : Nat) (letter : Char)

/-- The letters of the first sounds, from the bits `2` on. -/
def firstLetters : String := "ㄱㄲㄴㄷㄸㄹㅁㅂㅃㅅㅆㅇㅈㅉㅊㅋㅌㅍㅎ"

/-- The vowels. -/
def vowelLetters : String := "ㅏㅐㅑㅒㅓㅔㅕㅖㅗㅘㅙㅚㅛㅜㅝㅞㅟㅠㅡㅢㅣ"

/-- The letters of the last sounds, from the bits `2` on. -/
def lastLetters : String := "ㄱㄲㄳㄴㄵㄶㄷㄹㄺㄻㄼㄽㄾㄿㅀㅁㅂㅄㅅㅆㅇㅈㅊㅋㅌㅍㅎ"

/-- The sound of an index among letters. -/
def soundAt? (letters : String) (index shift : Nat) : Option Sound :=
  letters.toList[index]?.map (.present (index + shift))

/-- The first sound of five bits. -/
def firstSound? (bits : Nat) : Option Sound :=
  if bits = 1 then some .absent else if 2 ≤ bits then soundAt? firstLetters (bits - 2) 0 else none

/-- The vowel of five bits; they come in groups of six with gaps between them. -/
def vowelSound? (bits : Nat) : Option Sound :=
  if bits = 2 then some .absent
  else if 3 ≤ bits && bits ≤ 7 then soundAt? vowelLetters (bits - 3) 0
  else if 10 ≤ bits && bits ≤ 15 then soundAt? vowelLetters (bits - 5) 0
  else if 18 ≤ bits && bits ≤ 23 then soundAt? vowelLetters (bits - 7) 0
  else if 26 ≤ bits && bits ≤ 29 then soundAt? vowelLetters (bits - 9) 0
  else none

/-- The last sound of five bits, which leave out eighteen. -/
def lastSound? (bits : Nat) : Option Sound :=
  if bits = 1 then some .absent
  else if 2 ≤ bits && bits ≤ 17 then soundAt? lastLetters (bits - 2) 1
  else if 19 ≤ bits && bits ≤ 29 then soundAt? lastLetters (bits - 3) 1
  else none

/-- What sounds amount to: a syllable, a letter, or a wide blank. -/
def sounded? (first vowel last : Sound) : Option Char :=
  match first, vowel, last with
  | .absent, .absent, .absent => some '\u3000'
  | .absent, .absent, .present _ letter => some letter
  | .absent, .present _ letter, .absent => some letter
  | .present _ letter, .absent, .absent => some letter
  | .present first _, .present vowel _, .absent => some (syllable first vowel 0)
  | .present first _, .present vowel _, .present last _ => some (syllable first vowel last)
  | _, _, _ => none

/-- A sign or ideograph of KS X 1001 in the bytes that the sounds leave free: two rows
share a first byte. -/
def signBySounds? (a b : Nat) : Option Char :=
  if a = 0xDF || 0xF9 < a || b < 0x31 || 0x80 ≤ b && b < 0x91 || b % 0x80 = 0x7F
      || a = 0xDA && 0xA1 ≤ b && b ≤ 0xD3 || a < 0xD9 then none
  else
    let row := if a < 0xE0 then 2 * (a - 0xD9) else 2 * a - 0x197
    let cell := if b < 0x91 then b - 0x31 else b - 0x43
    ks1001.inSeven? (row + (if cell < 94 then 0 else 1) + 0x21) (cell % 94 + 0x21)

/-- A character by its sounds, or another one. -/
def findBySounds (a b : Nat) : Option (List Char) :=
  if a < 0xD8 then do
    let first ← firstSound? (a / 4 % 32)
    let vowel ← vowelSound? ((a * 8 + b / 32) % 32)
    let last ← lastSound? (b % 32)
    (sounded? first vowel last).map ([·])
  else (signBySounds? a b).map ([·])

end FormAutomation.Text.EastAsian
