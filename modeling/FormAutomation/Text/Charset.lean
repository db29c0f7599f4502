import FormAutomation.Text.Backslash
import FormAutomation.Text.ByteSet
import FormAutomation.Text.EastAsian.Coding
import FormAutomation.Text.Punycode
import FormAutomation.Text.Utf7
import FormAutomation.Text.Utf8
import FormAutomation.Text.Word

/-!
# Character sets

A text that came as bytes was written in some character set.  Where the bytes
are no character of the set there is a *flaw*: a lenient reader puts the
replacement character in its place, a strict one gives up.  Sets of two and four
bytes begin with a mark that tells the order of the bytes, unless their name
does.  Some names are those of other things, in which no text can be read.
-/

namespace FormAutomation.Text

/-- What has a name among those of character sets, but text cannot be read leniently
in it. -/
inductive Unreadable where
  /-- ways of writing bytes in other bytes -/
  | bytes
  /-- letters turned by half of the alphabet -/
  | turned
  /-- nothing at all -/
  | undefined
  /-- names of hosts -/
  | hosts
  deriving DecidableEq

/-- A character set. -/
inductive Charset where
  /-- one to four bytes for a character -/
  | utf8
  /-- the same after a mark, which is no part of the text -/
  | utf8Marked
  /-- two or four bytes; without an order they begin with a mark -/
  | utf16 (bigEndian : Option Bool)
  /-- four bytes; without an order they begin with a mark -/
  | utf32 (bigEndian : Option Bool)
  /-- one byte -/
  | ofBytes (set : ByteSet)
  /-- two bytes or more -/
  | eastAsian (coding : EastAsian.Coding)
  /-- ASCII, and runs in base 64 -/
  | utf7
  /-- escapes with a backslash -/
  | backslash (isRaw : Bool)
  /-- ASCII, and what is to be inserted -/
  | punycode
  /-- no character set -/
  | unreadable (why : Unreadable)
  deriving DecidableEq

namespace Charset

/-! ## Names -/

/-- The sets that are not of one byte: what each is called, and what else. -/
def named : List (Charset × String × List String) :=
  [(.utf8, "utf_8", ["utf8", "u8", "utf", "cp65001", "utf8_ucs2", "utf8_ucs4"]),
   (.utf8Marked, "utf_8_sig", []),
   (.utf16 none, "utf_16", ["utf16", "u16"]),
   (.utf16 (some false), "utf_16_le", ["utf_16le", "unicodelittleunmarked"]),
   (.utf16 (some true), "utf_16_be", ["utf_16be", "unicodebigunmarked"]),
   (.utf32 none, "utf_32", ["utf32", "u32"]),
   (.utf32 (some false), "utf_32_le", ["utf_32le"]),
   (.utf32 (some true), "utf_32_be", ["utf_32be"]),
   (.utf7, "utf_7", ["u7", "utf7", "unicode_1_1_utf_7"]),
   (.backslash false, "unicode_escape", []),
   (.backslash true, "raw_unicode_escape", []),
   (.punycode, "punycode", []),
   (.ofBytes .latin1, "charmap", []),
   (.unreadable .bytes, "base64_codec", ["base64", "base_64"]),
   (.unreadable .bytes, "bz2_codec", ["bz2"]),
   (.unreadable .bytes, "hex_codec", ["hex"]),
   (.unreadable .bytes, "quopri_codec", ["quopri", "quoted_printable", "quotedprintable"]),
   (.unreadable .bytes, "uu_codec", ["uu"]),
   (.unreadable .bytes, "zlib_codec", ["zip", "zlib"]),
   (.unreadable .turned, "rot_13", ["rot13"]),
   (.unreadable .undefined, "undefined", []),
   (.unreadable .hosts, "idna", [])]

/-- All sets, with what they are called. -/
def all : List (Charset × String × List String) :=
  named
    ++ ByteSet.all.map (fun set => (.ofBytes set, set.name, set.otherNames))
    ++ EastAsian.Coding.all.map fun (coding, names) => (.eastAsian coding, names)

/-- A name in the form in which names are compared: small letters, and one low
line for whatever stands between letters, digits and points. -/
def comparedName (gap : Bool) : List Char → List Char
  | [] => []
  | c :: cs =>
    if isAlphanumeric c || c == '.' then
      (if gap then ['_'] else [])
        ++ (if c.toNat < 128 then [c.toLower] else []) ++ comparedName false cs
    else comparedName true cs

/-- The set of a name. -/
def named? (name : String) : Option Charset :=
  let isGap (c : Char) : Bool := !(isAlphanumeric c || c == '.')
  let compared := comparedName false (name.toList.dropWhile isGap)
  let plain := String.ofList (compared.map fun c => if c = '.' then '_' else c)
  let compared := String.ofList compared
  (all.find? fun (_, known, others) =>
    known == compared || others.contains compared || others.contains plain).map (·.1)

/-! ## Reading -/

/-- The code point of a number, if it is one. -/
def point? (n : Nat) : Option Char :=
  if n.isValidChar then some (Char.ofNat n) else none

/-- The number of two bytes. -/
def pair (bigEndian : Bool) (a b : UInt8) : Nat :=
  if bigEndian then 256 * a.toNat + b.toNat else 256 * b.toNat + a.toNat

/-- Whether a number of two bytes is the second half of a character. -/
def isSecondHalf (n : Nat) : Bool :=
  0xDC00 ≤ n && n ≤ 0xDFFF

/-- Whether a number of two bytes is the first half of a character. -/
def isFirstHalf (n : Nat) : Bool :=
  0xD800 ≤ n && n ≤ 0xDBFF

/-- The characters and flaws of two or four bytes each. -/
def readPairs (bigEndian : Bool) : List UInt8 → List (Option Char)
  | [] => []
  | [_] => [none]
  | [a, b] => [point? (pair bigEndian a b)]
  | [a, b, _] =>
    if isFirstHalf (pair bigEndian a b) then [none] else [point? (pair bigEndian a b), none]
  | a :: b :: c :: d :: rest =>
    let first := pair bigEndian a b
    let second := pair bigEndian c d
    if isFirstHalf first && isSecondHalf second then
      point? (0x10000 + 0x400 * (first - 0xD800) + (second - 0xDC00)) :: readPairs bigEndian rest
    else point? first :: readPairs bigEndian (c :: d :: rest)
termination_by bytes => bytes.length

/-- The characters and flaws of four bytes each. -/
def readQuads (bigEndian : Bool) : List UInt8 → List (Option Char)
  | a :: b :: c :: d :: rest =>
    let n :=
      if bigEndian then 65536 * pair true a b + pair true c d
      else 65536 * pair false c d + pair false a b
    point? n :: readQuads bigEndian rest
  | [] => []
  | _ => [none]

/-- The order that the mark of a set of two bytes tells, and what follows. -/
def pairMark? : List UInt8 → Option (Bool × List UInt8)
  | 0xFE :: 0xFF :: rest => some (true, rest)
  | 0xFF :: 0xFE :: rest => some (false, rest)
  | _ => none

/-- The order that the mark of a set of four bytes tells, and what follows. -/
def quadMark? : List UInt8 → Option (Bool × List UInt8)
  | 0x00 :: 0x00 :: 0xFE :: 0xFF :: rest => some (true, rest)
  | 0xFF :: 0xFE :: 0x00 :: 0x00 :: rest => some (false, rest)
  | _ => none

/-- The bytes after the mark of text in one to four bytes, if it is there; a mark
that breaks off is followed by nothing. -/
def afterMark : List UInt8 → List UInt8
  | 0xEF :: 0xBB :: 0xBF :: rest => rest
  | [0xEF, 0xBB] | [0xEF] => []
  | bytes => bytes

/-- Why even a lenient reader gives up. -/
inductive Fault where
  /-- the mark that tells the order of the bytes is missing before pairs of them -/
  | unmarkedPairs
  /-- it is missing before four bytes for each character -/
  | unmarkedQuads
  /-- the text breaks off in a sequence that is too long to be kept -/
  | longTail
  /-- a byte among the digits of what is to be inserted is not in ASCII -/
  | stray (byte : UInt8) (place : Nat)
  /-- this is no character set -/
  | unreadable (why : Unreadable)
  deriving DecidableEq

/-- What is said of a fault. -/
def Fault.message : Fault → String
  | .unmarkedPairs => "UTF-16 stream does not start with BOM"
  | .unmarkedQuads => "UTF-32 stream does not start with BOM"
  | .longTail => "pending buffer overflow"
  | .stray byte place =>
    let shown := String.ofList (Nat.toDigits 16 byte.toNat)
    s!"'ascii' codec can't decode byte 0x{shown} in position {place}: ordinal not in range(128)"
  | .unreadable .bytes => ""
  | .unreadable .turned =>
    "descriptor 'translate' for 'str' objects doesn't apply to a 'bytes' object"
  | .unreadable .undefined => "undefined encoding"
  | .unreadable .hosts => "Unsupported error handling replace"

/-- How many bytes of a character that breaks off are kept. -/
def longestTail : Nat := 8

/-- The characters, each flaw replaced. -/
def mended (cs : List (Option Char)) : List Char :=
  cs.map (·.getD '\uFFFD')

/-- The text of bytes, each flaw replaced. -/
def decodeLossy : Charset → List UInt8 → Except Fault (List Char)
  | .utf8, bytes => .ok (Utf8.decodeLossy bytes)
  | .utf8Marked, bytes => .ok (Utf8.decodeLossy (afterMark bytes))
  | .utf16 (some bigEndian), bytes => .ok (mended (readPairs bigEndian bytes))
  | .utf16 none, bytes =>
    match pairMark? bytes with
    | some (bigEndian, rest) => .ok (mended (readPairs bigEndian rest))
    | none => if bytes.length < 2 then .ok (mended (readPairs false bytes)) else .error .unmarkedPairs
  | .utf32 (some bigEndian), bytes => .ok (mended (readQuads bigEndian bytes))
  | .utf32 none, bytes =>
    match quadMark? bytes with
    | some (bigEndian, rest) => .ok (mended (readQuads bigEndian rest))
    | none => if bytes.length < 4 then .ok (mended (readQuads false bytes)) else .error .unmarkedQuads
  | .ofBytes set, bytes => .ok (mended (set.read bytes))
  | .eastAsian coding, bytes =>
    let reading := coding.read bytes
    if longestTail < reading.unread then .error .longTail else .ok (mended reading.items)
  | .utf7, bytes => .ok (mended (Utf7.read none bytes))
  | .backslash isRaw, bytes => .ok (mended (Backslash.read isRaw bytes))
  | .punycode, bytes =>
    match Punycode.strayByte? bytes with
    | some (byte, place) => .error (.stray byte place)
    | none => .ok (mended ((Punycode.decodeLossy bytes).map point?))
  | .unreadable why, _ => .error (.unreadable why)

/-- The text of bytes without a flaw.  Where a mark is missing the lowest byte of a
character comes first. -/
def decode? : Charset → List UInt8 → Option (List Char)
  | .utf8, bytes => (Utf8.decode bytes).toOption
  | .utf8Marked, bytes => (Utf8.decode (afterMark bytes)).toOption
  | .utf16 (some bigEndian), bytes => (readPairs bigEndian bytes).mapM id
  | .utf16 none, bytes =>
    let (bigEndian, rest) := (pairMark? bytes).getD (false, bytes)
    (readPairs bigEndian rest).mapM id
  | .utf32 (some bigEndian), bytes => (readQuads bigEndian bytes).mapM id
  | .utf32 none, bytes =>
    let (bigEndian, rest) := (quadMark? bytes).getD (false, bytes)
    (readQuads bigEndian rest).mapM id
  | .ofBytes set, bytes => (set.read bytes).mapM id
  | .eastAsian coding, bytes => (coding.read bytes).items.mapM id
  | .utf7, bytes => (Utf7.read none bytes).mapM id
  | .backslash isRaw, bytes => (Backslash.read isRaw bytes).mapM id
  | .punycode, bytes =>
    if bytes.all (· < 128) then
      (Punycode.decode (bytes.map fun byte => Char.ofNat byte.toNat)).bind (·.mapM point?)
    else none
  | .unreadable .hosts, bytes => (ByteSet.ascii.read bytes).mapM id
  | .unreadable _, _ => none

/-- The set in which bytes that begin with two characters of ASCII are written:
a mark tells it, or where the bytes of zero stand. -/
def detected : List UInt8 → Charset
  | bytes =>
    if (quadMark? bytes).isSome then .utf32 none
    else if (pairMark? bytes).isSome then .utf16 none
    else if [0xEF, 0xBB, 0xBF].isPrefixOf bytes then .utf8Marked
    else
      match bytes with
      | 0 :: 0 :: _ :: _ :: _ => .utf32 (some true)
      | 0 :: _ :: _ :: _ :: _ => .utf16 (some true)
      | _ :: 0 :: 0 :: 0 :: _ => .utf32 (some false)
      | _ :: 0 :: _ :: _ :: _ => .utf16 (some false)
      | [0, _] => .utf16 (some true)
      | [_, 0] => .utf16 (some false)
      | _ => .utf8

end Charset

end FormAutomation.Text
