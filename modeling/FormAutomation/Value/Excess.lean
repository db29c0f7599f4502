import FormAutomation.Value.Numeric
import FormAutomation.Value.Reader

/-!
# Texts that ask too much

A text may be JSON and ask too much all the same of those who work on it.  A
whole number with very many digits is not converted.  Brackets that are nested
very deeply are not followed to the end, since the calls that this takes are more
than there may be at a time.  And half of a surrogate pair can be escaped, which
is no character, so that the texts of this library cannot hold it.

A number that is too long is a certain end of the reading, and so are as many open
brackets as there may be calls at a time.  For the others it is open what comes of
them: how deep is too deep depends on the calls that are under way already and on
what is done with the value, which is copied, compared and printed, and half a pair
does no harm before it is to be written.  So these are a *strain*, and nothing is
told of what comes of it.  A depth is taken that is in reach for all that is done.

The brackets, the whole numbers and the halves are the *marks* of a text.  Its
reader comes upon all of them, in order, up to the place where it cannot read on.
-/

namespace FormAutomation

/-- What it is open for what comes of it. -/
inductive Strain where
  /-- brackets are nested deeply -/
  | depth
  /-- half of a surrogate pair is escaped -/
  | half
  /-- the index in a path has very many digits -/
  | index
  deriving DecidableEq

namespace Json

/-- What is looked for in a text. -/
inductive Mark where
  /-- a bracket or brace that opens -/
  | opening
  /-- a bracket or brace that closes -/
  | closing
  /-- a whole number of so many digits -/
  | whole (digits : Nat)
  /-- half of a surrogate pair, escaped -/
  | half
  deriving DecidableEq

/-! ## Marks -/

/-- How many characters a fraction takes with its point, if one stands at the
head. -/
def fractionWidth (cs : List Char) : Nat :=
  if (fractionPart cs).isEmpty then 0 else (fractionPart cs).length + 1

/-- How many characters an exponent takes with its letter, if one stands at the
head. -/
def exponentWidth (cs : List Char) : Nat :=
  match exponentPart cs with
  | some (_, _, width) => width
  | none => 0

/-- How many characters come behind the whole part of the number at the head and
are still part of it. -/
def tailWidth (cs : List Char) : Nat :=
  let afterWhole := cs.drop (wholePart cs).length
  fractionWidth afterWhole + exponentWidth (afterWhole.drop (fractionWidth afterWhole))

/-- The mark of the number at the head, if it is a whole number. -/
def wholeMark? (cs : List Char) : Option Mark :=
  if tailWidth cs = 0 then some (.whole (wholePart cs).length) else none

/-- Whether the number is that of half a surrogate pair. -/
def isHalf (n : Nat) : Bool :=
  0xD800 ≤ n && n ≤ 0xDFFF

/-- Whether the text goes on with the other half of a surrogate pair, escaped, which
has to have something behind it. -/
def otherHalfFollows (high : Nat) (cs : List Char) : Bool :=
  ['\\', 'u'].isPrefixOf cs && high ≤ 0xDBFF && !(cs.drop 6).isEmpty
    && (hexQuad? (cs.drop 2)).any fun low => 0xDC00 ≤ low && low ≤ 0xDFFF

/-- The mark of an escape, if it has one, and how many characters it takes behind
its backslash; what is no escape takes none. -/
def escapeMark : List Char → Option Mark × Nat
  | [] => (none, 0)
  | 'u' :: digits =>
    match hexQuad? digits with
    | some n =>
      if !isHalf n then (none, 5)
      else if otherHalfFollows n (digits.drop 4) then (none, 11)
      else (some .half, 5)
    | none => (none, 0)
  | c :: _ => (none, if (letterEscape? c).isSome then 1 else 0)

/-- The mark of a character outside of quotes that is no digit. -/
def bracketMark? (c : Char) : Option Mark :=
  if c = '[' ∨ c = '{' then some .opening
  else if c = ']' ∨ c = '}' then some .closing
  else none

/-- The marks of a text, of which `skip` characters were looked at already.
`quoted` tells whether it starts inside quotes. -/
def marks : Bool → Nat → List Char → List Mark
  | _, _, [] => []
  | quoted, skip + 1, _ :: cs => marks quoted skip cs
  | true, 0, c :: cs =>
    if c = '"' then marks false 0 cs
    else if c = '\\' then (escapeMark cs).1.toList ++ marks true (escapeMark cs).2 cs
    else marks true 0 cs
  | false, 0, c :: cs =>
    if c = '"' then marks true 0 cs
    else if c.isDigit then
      let width := (wholePart (c :: cs)).length + tailWidth (c :: cs)
      (wholeMark? (c :: cs)).toList ++ marks false (width - 1) cs
    else (bracketMark? c).toList ++ marks false 0 cs

/-! ## Excesses -/

/-- How deep brackets may be nested. -/
def deepest : Nat := 200

/-- How many calls there may be at a time; each open bracket takes one. -/
def mostCalls : Nat := 1000

/-- With what a text asks too much. -/
inductive Excess where
  /-- a whole number has so many digits that it is not converted -/
  | digits (count : Nat)
  /-- brackets are nested so deeply that they are not followed -/
  | depth
  /-- it is open what comes of the text -/
  | strain (why : Strain)
  deriving DecidableEq

/-- Whether a reader comes upon more open brackets than there may be calls, and upon
no number before that is not converted; `depth` brackets are open. -/
def isBottomless : Nat → List Mark → Bool
  | _, [] => false
  | depth, .opening :: marks => mostCalls ≤ depth + 1 || isBottomless (depth + 1) marks
  | depth, .closing :: marks => isBottomless (depth - 1) marks
  | depth, .whole digits :: marks => digits ≤ Numeral.longest && isBottomless depth marks
  | depth, .half :: marks => isBottomless depth marks

/-- The excess that a reader comes upon first; `depth` brackets are open. -/
def firstExcess? : Nat → List Mark → Option Excess
  | _, [] => none
  | depth, .opening :: marks =>
    if deepest ≤ depth then
      some (if isBottomless (depth + 1) marks then .depth else .strain .depth)
    else firstExcess? (depth + 1) marks
  | depth, .closing :: marks => firstExcess? (depth - 1) marks
  | depth, .whole digits :: marks =>
    if Numeral.longest < digits then some (.digits digits) else firstExcess? depth marks
  | depth, .half :: marks => firstExcess? depth marks

/-- With what a text asks too much, if it does.  What cannot be read on does so
before the place where it cannot, or never. -/
def excess? (text : String) : Option Excess :=
  match parse text with
  | .ok _ =>
    let marks := marks false 0 text.toList
    (firstExcess? 0 marks).or (if .half ∈ marks then some (.strain .half) else none)
  | .error fault => firstExcess? 0 (marks false 0 (text.toList.take fault.offset))

/-- The value that a text writes, unless a number in it is not converted. -/
def value? (text : String) : Option Value :=
  match excess? text with
  | some (.digits _) => none
  | _ => (parse text).toOption

end Json

end FormAutomation
