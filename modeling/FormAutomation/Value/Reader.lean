import FormAutomation.Number.Binary64
import FormAutomation.Text.Digit
import FormAutomation.Value.Basic

/-!
# Reading JSON

A text is read from left to right; the first place where it cannot go on is the
fault that is reported, with its line and column.  Beyond the standard, the
words `NaN`, `Infinity` and `-Infinity` are numbers, and of entries under one
name the last value counts, at the place of the first.

The readers carry the rest of the text and the offset at which it starts.  Each
nested value costs one unit of `fuel`; twice the length of the text is more than
any text can use.
-/

namespace FormAutomation.Json

/-- Why a text cannot be read on. -/
inductive Fault.Cause where
  /-- no value starts here -/
  | valueExpected
  /-- an entry's name has to start here -/
  | nameExpected
  /-- a colon has to stand here -/
  | colonExpected
  /-- a comma or a closing bracket has to stand here -/
  | commaExpected
  /-- the text goes on after its value -/
  | extraData
  /-- the quoted text that starts here does not end -/
  | unterminated
  /-- a control character stands inside a quoted text -/
  | controlCharacter
  /-- an unknown escape starts here -/
  | unknownEscape
  /-- an escaped code point lacks digits -/
  | codePointEscape
  /-- the text starts with a byte order mark -/
  | byteOrderMark
  /-- the text is a value of another kind than an object -/
  | objectExpected
  deriving DecidableEq

/-- What is said of a cause. -/
def Fault.Cause.description : Fault.Cause → String
  | .valueExpected => "Expecting value"
  | .nameExpected => "Expecting property name enclosed in double quotes"
  | .colonExpected => "Expecting ':' delimiter"
  | .commaExpected => "Expecting ',' delimiter"
  | .extraData => "Extra data"
  | .unterminated => "Unterminated string starting at"
  | .controlCharacter => "Invalid control character at"
  | .unknownEscape => "Invalid \\escape"
  | .codePointEscape => "Invalid \\uXXXX escape"
  | .byteOrderMark => "Unexpected UTF-8 BOM (decode using utf-8-sig)"
  | .objectExpected => "Form values must be a JSON object"

/-- A cause and the place it was found at, in characters from the start. -/
structure Fault where
  /-- what is wrong -/
  cause : Fault.Cause
  /-- how many characters precede the place -/
  offset : Nat
  deriving DecidableEq

/-- The line of an offset, counted from one. -/
def lineOf (text : List Char) (offset : Nat) : Nat :=
  (text.take offset).count '\n' + 1

/-- The column of an offset within its line, counted from one. -/
def columnOf (text : List Char) (offset : Nat) : Nat :=
  ((text.take offset).reverse.takeWhile (· ≠ '\n')).length + 1

/-- A fault with the place it was found at in a text. -/
def Fault.message (fault : Fault) (text : String) : String :=
  let line := lineOf text.toList fault.offset
  let column := columnOf text.toList fault.offset
  let offset := fault.offset
  s!"{fault.cause.description}: line {line} column {column} (char {offset})"

/-- The rest of a text and the offset at which it starts. -/
structure Cursor where
  /-- what is still to be read -/
  rest : List Char
  /-- how many characters precede it -/
  offset : Nat

/-- White space between tokens. -/
def isSpace (c : Char) : Bool :=
  c == ' ' || c == '\t' || c == '\n' || c == '\r'

/-- The cursor after white space. -/
def skipSpace : List Char → Nat → Cursor
  | [], n => ⟨[], n⟩
  | c :: cs, n => if isSpace c then skipSpace cs (n + 1) else ⟨c :: cs, n⟩

/-! ## Quoted texts -/

/-- The value of a hexadecimal digit. -/
def hexValue? (c : Char) : Option Nat :=
  if c.isDigit then some (c.toNat - 48)
  else if 'a' ≤ c ∧ c ≤ 'f' then some (c.toNat - 87)
  else if 'A' ≤ c ∧ c ≤ 'F' then some (c.toNat - 55)
  else none

/-- The number of four hexadecimal digits. -/
def hexQuad? : List Char → Option Nat
  | a :: b :: c :: d :: _ => do
    let a ← hexValue? a
    let b ← hexValue? b
    let c ← hexValue? c
    let d ← hexValue? d
    some (((a * 16 + b) * 16 + c) * 16 + d)
  | _ => none

/-- The character of an escaped code point.  Half a surrogate pair is a text of its
own elsewhere; here a text has characters only, so the replacement character takes
its place, and a text in which this happens is known by its marks. -/
def codePoint (n : Nat) : Char :=
  if 0xD800 ≤ n ∧ n ≤ 0xDFFF then '\uFFFD' else Char.ofNat n

/-- The escapes of one letter. -/
def letterEscape? : Char → Option Char
  | '"' => some '"'
  | '\\' => some '\\'
  | '/' => some '/'
  | 'b' => some (Char.ofNat 8)
  | 'f' => some (Char.ofNat 12)
  | 'n' => some '\n'
  | 'r' => some '\r'
  | 't' => some '\t'
  | _ => none

/-- What an escape stands for and how many characters after its backslash it
takes.  `n` is the offset of the backslash, `start` that of the opening quote. -/
def readEscape (start n : Nat) : List Char → Except Fault (Char × Nat)
  | [] => .error ⟨.unterminated, start⟩
  | 'u' :: digits =>
    if digits.length < 5 then .error ⟨.codePointEscape, n + 1⟩
    else
      match hexQuad? digits with
      | none => .error ⟨.codePointEscape, n + 1⟩
      | some high =>
        if 0xD800 ≤ high ∧ high ≤ 0xDBFF ∧ 11 ≤ digits.length
            ∧ ((digits.drop 4).take 2 = ['\\', 'u']) then
          match hexQuad? (digits.drop 6) with
          | none => .error ⟨.codePointEscape, n + 7⟩
          | some low =>
            if 0xDC00 ≤ low ∧ low ≤ 0xDFFF then
              .ok (Char.ofNat (0x10000 + (high - 0xD800) * 0x400 + (low - 0xDC00)), 11)
            else .ok (codePoint high, 5)
        else .ok (codePoint high, 5)
  | c :: _ =>
    match letterEscape? c with
    | some d => .ok (d, 1)
    | none => .error ⟨.unknownEscape, n⟩

/-- The characters of a quoted text up to its closing quote.  `skip` characters
belong to an escape that was read already. -/
def readQuoted (start : Nat) : Nat → List Char → Nat → Except Fault (List Char × Cursor)
  | _, [], _ => .error ⟨.unterminated, start⟩
  | skip + 1, _ :: cs, n => readQuoted start skip cs (n + 1)
  | 0, c :: cs, n =>
    if c = '"' then .ok ([], ⟨cs, n + 1⟩)
    else if c = '\\' then do
      let (d, width) ← readEscape start n cs
      let (ds, cursor) ← readQuoted start width cs (n + 1)
      .ok (d :: ds, cursor)
    else if c.toNat < 0x20 then .error ⟨.controlCharacter, n⟩
    else do
      let (ds, cursor) ← readQuoted start 0 cs (n + 1)
      .ok (c :: ds, cursor)

/-- The quoted text after an opening quote at offset `n`. -/
def readText (cs : List Char) (n : Nat) : Except Fault (String × Cursor) := do
  let (ds, cursor) ← readQuoted n 0 cs (n + 1)
  .ok (String.ofList ds, cursor)

/-! ## Numbers -/

/-- The digits of a whole part: a zero alone, or digits that start with none. -/
def wholePart : List Char → List Char
  | [] => []
  | c :: cs =>
    if c = '0' then ['0'] else if c.isDigit then c :: cs.takeWhile Char.isDigit else []

/-- The digits after a point, if a point with digits stands at the head. -/
def fractionPart : List Char → List Char
  | '.' :: cs => cs.takeWhile Char.isDigit
  | _ => []

/-- The sign and digits of an exponent, if one stands at the head: whether it is
negative, its digits, and how many characters it takes. -/
def exponentPart : List Char → Option (Bool × List Char × Nat)
  | [] => none
  | c :: cs =>
    if c = 'e' ∨ c = 'E' then
      let (negative, signed, digits) :=
        match cs with
        | '-' :: rest => (true, 1, rest.takeWhile Char.isDigit)
        | '+' :: rest => (false, 1, rest.takeWhile Char.isDigit)
        | _ => (false, 0, cs.takeWhile Char.isDigit)
      if digits.isEmpty then none else some (negative, digits, 1 + signed + digits.length)
    else none

/-- The number at the head, with its sign already read: `sign` characters before
offset `n + sign`. -/
def readMagnitude (negative : Bool) (cs : List Char) (n sign : Nat) : Except Fault (Value × Cursor) :=
  let whole := wholePart cs
  if whole.isEmpty then .error ⟨.valueExpected, n⟩
  else
    let afterWhole := cs.drop whole.length
    let fraction := fractionPart afterWhole
    let fractionWidth := if fraction.isEmpty then 0 else fraction.length + 1
    let afterFraction := afterWhole.drop fractionWidth
    let signed (k : Nat) : Int := if negative then -(k : Int) else k
    match exponentPart afterFraction with
    | none =>
      let value : Value :=
        if fraction.isEmpty then .int (signed (Text.digitsValue whole))
        else .float (.ofDecimal negative (Text.digitsValue (whole ++ fraction)) (-fraction.length))
      .ok (value, ⟨afterFraction, n + sign + whole.length + fractionWidth⟩)
    | some (down, digits, width) =>
      let power : Int := Text.digitsValue digits
      let power := (if down then -power else power) - fraction.length
      .ok (.float (.ofDecimal negative (Text.digitsValue (whole ++ fraction)) power),
        ⟨afterFraction.drop width, n + sign + whole.length + fractionWidth + width⟩)

/-- The number at the head. -/
def readNumber (cs : List Char) (n : Nat) : Except Fault (Value × Cursor) :=
  match cs with
  | '-' :: rest => readMagnitude true rest n 1
  | _ => readMagnitude false cs n 0

/-- The words that are values. -/
def words : List (List Char × Value) :=
  [("null".toList, .null), ("true".toList, .bool true), ("false".toList, .bool false),
   ("NaN".toList, .float .nan), ("Infinity".toList, .float (.infinity false)),
   ("-Infinity".toList, .float (.infinity true))]

/-- The word or number at the head. -/
def readScalar (cs : List Char) (n : Nat) : Except Fault (Value × Cursor) :=
  match words.find? fun word => word.1.isPrefixOf cs with
  | some (word, value) => .ok (value, ⟨cs.drop word.length, n + word.length⟩)
  | none => readNumber cs n

/-! ## Values -/

mutual

/-- The value at the head. -/
def readValue : Nat → List Char → Nat → Except Fault (Value × Cursor)
  | 0, _, n => .error ⟨.valueExpected, n⟩
  | fuel + 1, cs, n =>
    match cs with
    | [] => .error ⟨.valueExpected, n⟩
    | '"' :: rest => do
      let (s, cursor) ← readText rest n
      .ok (.text s, cursor)
    | '[' :: rest =>
      let cursor := skipSpace rest (n + 1)
      match cursor.rest with
      | ']' :: after => .ok (.list [], ⟨after, cursor.offset + 1⟩)
      | _ => do
        let (items, cursor) ← readItems fuel cursor.rest cursor.offset
        .ok (.list items, cursor)
    | '{' :: rest =>
      let cursor := skipSpace rest (n + 1)
      match cursor.rest with
      | '}' :: after => .ok (.object [], ⟨after, cursor.offset + 1⟩)
      | _ => do
        let (fields, cursor) ← readFields fuel cursor.rest cursor.offset
        .ok (.object (Entries.ofList fields), cursor)
    | _ => readScalar cs n

/-- The items of a list up to its closing bracket. -/
def readItems : Nat → List Char → Nat → Except Fault (List Value × Cursor)
  | 0, _, n => .error ⟨.valueExpected, n⟩
  | fuel + 1, cs, n => do
    let (value, cursor) ← readValue fuel cs n
    let cursor := skipSpace cursor.rest cursor.offset
    match cursor.rest with
    | ']' :: after => .ok ([value], ⟨after, cursor.offset + 1⟩)
    | ',' :: after =>
      let cursor := skipSpace after (cursor.offset + 1)
      let (values, cursor) ← readItems fuel cursor.rest cursor.offset
      .ok (value :: values, cursor)
    | _ => .error ⟨.commaExpected, cursor.offset⟩

/-- The entries of an object up to its closing brace. -/
def readFields : Nat → List Char → Nat → Except Fault (List (String × Value) × Cursor)
  | 0, _, n => .error ⟨.nameExpected, n⟩
  | fuel + 1, cs, n =>
    match cs with
    | '"' :: rest => do
      let (name, cursor) ← readText rest n
      let cursor := skipSpace cursor.rest cursor.offset
      match cursor.rest with
      | ':' :: after =>
        let cursor := skipSpace after (cursor.offset + 1)
        let (value, cursor) ← readValue fuel cursor.rest cursor.offset
        let cursor := skipSpace cursor.rest cursor.offset
        match cursor.rest with
        | '}' :: after => .ok ([(name, value)], ⟨after, cursor.offset + 1⟩)
        | ',' :: after =>
          let cursor := skipSpace after (cursor.offset + 1)
          let (fields, cursor) ← readFields fuel cursor.rest cursor.offset
          .ok ((name, value) :: fields, cursor)
        | _ => .error ⟨.commaExpected, cursor.offset⟩
      | _ => .error ⟨.colonExpected, cursor.offset⟩
    | _ => .error ⟨.nameExpected, n⟩

end

/-- The value that a text writes. -/
def parse (text : String) : Except Fault Value :=
  let cs := text.toList
  match cs with
  | '\uFEFF' :: _ => .error ⟨.byteOrderMark, 0⟩
  | _ => do
    let start := skipSpace cs 0
    let (value, cursor) ← readValue (2 * cs.length + 2) start.rest start.offset
    let cursor := skipSpace cursor.rest cursor.offset
    if cursor.rest.isEmpty then .ok value else .error ⟨.extraData, cursor.offset⟩

end FormAutomation.Json
