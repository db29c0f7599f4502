/-!
# Characters written with a backslash

In some sets a byte is the character of that code point, except that a backslash
begins an *escape*: the number of a character in digits, or a letter that stands for a
sign.  In the raw form only numbers after `u` and `U` are escapes.
-/

namespace FormAutomation.Text.Backslash

/-- The value of a hexadecimal digit. -/
def hexValue? (byte : UInt8) : Option Nat :=
  let n := byte.toNat
  if 0x30 ≤ n && n ≤ 0x39 then some (n - 0x30)
  else if 0x61 ≤ n && n ≤ 0x66 then some (n - 0x57)
  else if 0x41 ≤ n && n ≤ 0x46 then some (n - 0x37)
  else none

/-- The character of a code point, if there are so many; half a surrogate pair stands
for the replacement character. -/
def character? (n : Nat) : Option Char :=
  if 0x10FFFF < n then none
  else if 0xD800 ≤ n && n ≤ 0xDFFF then some '\uFFFD'
  else some (Char.ofNat n)

/-- The signs that letters stand for. -/
def signs : List (UInt8 × Char) :=
  [(0x5C, '\\'), (0x27, '\''), (0x22, '"'), (0x62, '\x08'), (0x66, '\x0c'), (0x74, '\t'),
   (0x6E, '\n'), (0x72, '\r'), (0x76, '\x0b'), (0x61, '\x07')]

/-- How many digits a number takes after a letter. -/
def widths (isRaw : Bool) : List (UInt8 × Nat) :=
  (if isRaw then [] else [(0x78, 2)]) ++ [(0x75, 4), (0x55, 8)]

/-- A number of so many hexadecimal digits: its character, and how many digits there
are. -/
def numbered (width : Nat) (bytes : List UInt8) : Option Char × Nat :=
  let digits := (bytes.take width).takeWhile fun byte => (hexValue? byte).isSome
  let n := digits.foldl (fun n byte => 16 * n + (hexValue? byte).getD 0) 0
  (if digits.length < width then none else character? n, digits.length)

/-- Whether the byte is a digit of base eight. -/
def isOctal (byte : UInt8) : Bool :=
  0x30 ≤ byte && byte ≤ 0x37

/-- What an escape stands for, and how many bytes after its backslash it takes. -/
def escape (isRaw : Bool) (bytes : List UInt8) : List (Option Char) × Nat :=
  match bytes with
  | [] => ([if isRaw then some '\\' else none], 0)
  | byte :: rest =>
    match (widths isRaw).lookup byte, signs.lookup byte with
    | some width, _ =>
      let (c?, taken) := numbered width rest
      ([c?], taken + 1)
    | none, sign? =>
      let itself := ([some '\\', some (Char.ofNat byte.toNat)], 1)
      if isRaw then itself
      else if byte = 0x0A then ([], 1)
      else if byte = 0x4E then
        match rest with
        | 0x7B :: name =>
          let length := (name.takeWhile (· ≠ 0x7D)).length
          ([none], if length = 0 || length = name.length then length + 2 else length + 3)
        | _ => ([none], 1)
      else if isOctal byte then
        let digits := (bytes.take 3).takeWhile isOctal
        let n := digits.foldl (fun n byte => 8 * n + (byte.toNat - 0x30)) 0
        ([some (Char.ofNat n)], digits.length)
      else
        match sign? with
        | some c => ([some c], 1)
        | none => itself

/-- The characters and flaws of bytes. -/
def read (isRaw : Bool) : List UInt8 → List (Option Char)
  | [] => []
  | byte :: rest =>
    if byte = 0x5C then
      match escape isRaw rest with
      | (items, taken) => items ++ read isRaw (rest.drop taken)
    else some (Char.ofNat byte.toNat) :: read isRaw rest
termination_by bytes => bytes.length
decreasing_by all_goals simp only [List.length_drop, List.length_cons]; omega

end FormAutomation.Text.Backslash
