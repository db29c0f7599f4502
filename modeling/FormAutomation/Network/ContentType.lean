import FormAutomation.Network.Address
import FormAutomation.Text.Blank
import FormAutomation.Text.Case
import FormAutomation.Text.Charset
import FormAutomation.Text.Split

/-!
# Content types

A content type says of which kind a content is and carries parameters, one of
which may name the character set of its text: `text/plain; charset=latin-1`.

A parameter may come in numbered pieces, `charset*0=lat; charset*1=in-1`, and its
value may be written in percent after the name of its own character set and a
language: `charset*=us-ascii'en'latin-1`.
-/

namespace FormAutomation.Network.ContentType

open Text

/-- The pieces between semicolons that stand in no quotes.  A quote after a
backslash opens and closes nothing. -/
def pieces (quoted escaped : Bool) : List Char → List (List Char)
  | [] => [[]]
  | c :: cs =>
    if c = ';' ∧ !quoted then [] :: pieces false false cs
    else
      match pieces (if c = '"' ∧ !escaped then !quoted else quoted) (c = '\\') cs with
      | [] => [[c]]
      | first :: rest => (c :: first) :: rest

/-- A text with each backslash before a backslash or quote taken away. -/
def unescape : List Char → List Char
  | [] => []
  | ['\\'] => ['\\']
  | '\\' :: c :: cs =>
    if c = '\\' ∨ c = '"' then c :: unescape cs else '\\' :: unescape (c :: cs)
  | c :: cs => c :: unescape cs
termination_by cs => cs.length

/-- The value of a parameter without the quotes or angle brackets around it. -/
def unquote (cs : List Char) : List Char :=
  let inside := (cs.drop 1).dropLast
  if cs.length < 2 then cs
  else if cs.head? = some '"' ∧ cs.getLast? = some '"' then unescape inside
  else if cs.head? = some '<' ∧ cs.getLast? = some '>' then inside
  else cs

/-- The name and value of a parameter. -/
def parameter (cs : List Char) : String × String :=
  let (name, rest) := cs.span (· ≠ '=')
  let name := Text.lower (trim (String.ofList name))
  let value := (trim (String.ofList (rest.drop 1))).toList
  (name, String.ofList (unquote value))

/-- The parameters in order; the kind itself counts as one without a value. -/
def parameters (contentType : String) : List (String × String) :=
  (pieces false false contentType.toList).map parameter

/-! ## Parameters in pieces -/

/-- A piece of a parameter. -/
structure Piece where
  /-- its number, if it has one -/
  number : Option Nat
  /-- its text -/
  value : String
  /-- whether the text is written in percent -/
  isCoded : Bool

/-- Why the character set cannot be told. -/
inductive Fault where
  /-- the pieces of a parameter have no order: one has a number and another has none;
  given is whether the earlier one has -/
  | mixed (earlierNumbered : Bool)
  /-- a name holds the character zero -/
  | zeroInName
  deriving DecidableEq

/-- What is said of a fault. -/
def Fault.message : Fault → String
  | .mixed true => "'<' not supported between instances of 'NoneType' and 'int'"
  | .mixed false => "'<' not supported between instances of 'int' and 'NoneType'"
  | .zeroInName => "embedded null character"

/-- Whether the character can stand in the name of a parameter in pieces. -/
def isNameChar (c : Char) : Bool :=
  c.isAlphanum || c == '_'

/-- The piece that a parameter is, and the name of the parameter that it is a piece
of. -/
def piece? (parameter : String × String) : Option (String × Piece) :=
  let (stem, mark) := parameter.1.toList.span isNameChar
  let (digits, rest) := (mark.drop 1).span Char.isDigit
  let isMark := mark.head? == some '*' && (rest.isEmpty || (rest == ['*'] && !digits.isEmpty))
  if stem.isEmpty || !isMark then none
  else
    some (String.ofList stem,
      ⟨if digits.isEmpty then none else (String.ofList digits).toNat?, parameter.2,
        mark.getLast? == some '*'⟩)

/-- Whether a piece comes before another, or may. -/
def Piece.precedes (a b : Piece) : Bool :=
  let (m, n) := (a.number.getD 0, b.number.getD 0)
  m < n || (m == n && (a.value < b.value || (a.value == b.value && (!a.isCoded || b.isCoded))))

/-- Two neighbours of which one has a number and the other none. -/
def mixedPair? : List Piece → Option Fault
  | a :: b :: rest =>
    if a.number.isSome != b.number.isSome then some (.mixed a.number.isSome)
    else mixedPair? (b :: rest)
  | _ => none

/-- A text in percent, of which each byte is the code point of a character. -/
def unpercent : List Char → List Char
  | '%' :: a :: b :: rest =>
    match Address.hexValue? a, Address.hexValue? b with
    | some high, some low => Char.ofNat (16 * high + low) :: unpercent rest
    | _, _ => '%' :: unpercent (a :: b :: rest)
  | c :: rest => c :: unpercent rest
  | [] => []
termination_by cs => cs.length

/-- The character set of a name, if it is a known one. -/
def setNamed? (name : List Char) : Except Fault (Option Charset) :=
  if name.contains '\x00' then .error .zeroInName
  else .ok (Charset.named? (String.ofList name))

/-- The value of a coded parameter: the name of a character set, a language and the
text stand between single quotes.  Text that cannot be read in the set stands for
itself. -/
def codedValue (cs : List Char) : Except Fault (List Char) := do
  let (set, text) := match Text.splitOn '\'' cs with
    | set :: _ :: first :: more => (set, ['\''].intercalate (first :: more))
    | _ => ([], cs)
  let set? ← if set.isEmpty then pure (some (Charset.ofBytes .ascii)) else setNamed? set
  let bytes := text.map fun c => UInt8.ofNat c.toNat
  return (set?.bind fun set => set.decode? bytes).getD text

/-- The value that pieces make. -/
def joined (parts : List Piece) : Except Fault (List Char) :=
  let text := (parts.mergeSort Piece.precedes).flatMap fun part =>
    if part.isCoded then unpercent part.value.toList else part.value.toList
  if parts.any Piece.isCoded then codedValue text else .ok text

/-- The pieces of a parameter among those of all. -/
def piecesOf (name : String) (parts : List (String × Piece)) : List Piece :=
  (parts.filter (·.1 == name)).map (·.2)

/-- The name of the character set; a parameter in one piece goes before one in
several. -/
def charsetName? (contentType : String) : Except Fault (Option (List Char)) :=
  let parameters := parameters contentType
  let parts := (parameters.drop 1).filterMap piece?
  match (parts.map (·.1)).findSome? fun name => mixedPair? (piecesOf name parts) with
  | some fault => .error fault
  | none =>
    match parameters.lookup "charset", piecesOf "charset" parts with
    | some name, _ => .ok (some name.toList)
    | none, [] => .ok none
    | none, parts => (joined parts).map some

/-- The character set that a content type names, if it is a known one. -/
def charset? (contentType : String) : Except Fault (Option Charset) := do
  match ← charsetName? contentType with
  | some name => if name.all fun c => c.toNat < 128 then setNamed? name else return none
  | none => return none

/-- Whether the content is JSON. -/
def isJson (contentType : String) : Bool :=
  occursIn "json".toList contentType.toList

end FormAutomation.Network.ContentType
