import FormAutomation.Number.Notation
import FormAutomation.Value.Basic

/-!
# Values as text

JSON is written on one line, with or without a space after each comma and
colon, or over several lines with two spaces for each level.  Only quotes,
backslashes and control characters below the space are escaped; everything else
stands as it is.

A value that is put *into* a text (`Value.toText`) is written plainly instead
when it is a scalar: null as nothing, a text as itself, a double that is whole
without its point.
-/

namespace FormAutomation

/-! ## Quoting -/

namespace Json

/-- The hexadecimal digit of a number below sixteen. -/
def hexDigit (n : Nat) : Char :=
  if n < 10 then Char.ofNat (48 + n) else Char.ofNat (87 + n)

/-- One character inside a quoted text. -/
def escapeChar (c : Char) : List Char :=
  if c = '"' then ['\\', '"']
  else if c = '\\' then ['\\', '\\']
  else if c = '\n' then ['\\', 'n']
  else if c = '\r' then ['\\', 'r']
  else if c = '\t' then ['\\', 't']
  else if c.toNat = 8 then ['\\', 'b']
  else if c.toNat = 12 then ['\\', 'f']
  else if c.toNat < 0x20 then
    ['\\', 'u', '0', '0', hexDigit (c.toNat / 16), hexDigit (c.toNat % 16)]
  else [c]

/-- A quoted text. -/
def quote (s : String) : List Char :=
  '"' :: (s.toList.flatMap escapeChar ++ ['"'])

/-- What separates items and what separates a name from its value. -/
structure Spacing where
  /-- between two items or entries -/
  comma : List Char
  /-- between a name and its value -/
  colon : List Char

/-- No space at all. -/
def Spacing.compact : Spacing := ⟨[','], [':']⟩

/-- A space after each comma and colon. -/
def Spacing.loose : Spacing := ⟨[',', ' '], [':', ' ']⟩

/-- A truth value. -/
def boolText (b : Bool) : List Char :=
  if b then ['t', 'r', 'u', 'e'] else ['f', 'a', 'l', 's', 'e']

mutual

/-- A value on one line. -/
def write (spacing : Spacing) : Value → List Char
  | .null => ['n', 'u', 'l', 'l']
  | .bool b => boolText b
  | .int n => intText n
  | .float x => Layout.json.write x
  | .text s => quote s
  | .list items => '[' :: (writeItems spacing items ++ [']'])
  | .object fields => '{' :: (writeFields spacing fields ++ ['}'])

/-- The items of a list, separated. -/
def writeItems (spacing : Spacing) : List Value → List Char
  | [] => []
  | [v] => write spacing v
  | v :: w :: rest => write spacing v ++ spacing.comma ++ writeItems spacing (w :: rest)

/-- The entries of an object, separated. -/
def writeFields (spacing : Spacing) : List (String × Value) → List Char
  | [] => []
  | [(name, v)] => quote name ++ spacing.colon ++ write spacing v
  | (name, v) :: next :: rest =>
    quote name ++ spacing.colon ++ write spacing v ++ spacing.comma
      ++ writeFields spacing (next :: rest)

end

/-- A line break and the spaces of a level. -/
def newLine (level : Nat) : List Char :=
  '\n' :: List.replicate (2 * level) ' '

mutual

/-- A value over several lines, its first line standing at a level. -/
def writeIndented (level : Nat) : Value → List Char
  | .list [] => ['[', ']']
  | .list (v :: rest) =>
    '[' :: (newLine (level + 1) ++ writeIndentedItems (level + 1) (v :: rest)
      ++ newLine level ++ [']'])
  | .object [] => ['{', '}']
  | .object (entry :: rest) =>
    '{' :: (newLine (level + 1) ++ writeIndentedFields (level + 1) (entry :: rest)
      ++ newLine level ++ ['}'])
  | v => write .loose v

/-- The items of a list, each on a line of its own. -/
def writeIndentedItems (level : Nat) : List Value → List Char
  | [] => []
  | [v] => writeIndented level v
  | v :: w :: rest =>
    writeIndented level v ++ ',' :: newLine level ++ writeIndentedItems level (w :: rest)

/-- The entries of an object, each on a line of its own. -/
def writeIndentedFields (level : Nat) : List (String × Value) → List Char
  | [] => []
  | [(name, v)] => quote name ++ ':' :: ' ' :: writeIndented level v
  | (name, v) :: next :: rest =>
    quote name ++ ':' :: ' ' :: writeIndented level v ++ ',' :: newLine level
      ++ writeIndentedFields level (next :: rest)

end

end Json

namespace Value

/-- JSON without a space. -/
def compact (v : Value) : String :=
  String.ofList (Json.write .compact v)

/-- JSON on one line with spaces. -/
def loose (v : Value) : String :=
  String.ofList (Json.write .loose v)

/-- JSON over several lines. -/
def indented (v : Value) : String :=
  String.ofList (Json.writeIndented 0 v)

/-! ## Values inside texts -/

/-- A double inside a text: without its point when it is whole. -/
def doubleText (x : Binary64) : String :=
  match x.toInt? with
  | some n => String.ofList (intText n)
  | none => String.ofList (Layout.plain.write x)

/-- What a value becomes when it is put into a text. -/
def toText : Value → String
  | .null => ""
  | .bool b => String.ofList (Json.boolText b)
  | .int n => String.ofList (intText n)
  | .float x => doubleText x
  | .text s => s
  | .list items => (Value.list items).compact
  | .object fields => (Value.object fields).compact

end Value

end FormAutomation
