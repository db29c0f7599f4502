import FormAutomation.Network.LabelClasses
import FormAutomation.Text.Composition
import FormAutomation.Text.Direction
import FormAutomation.Text.Punycode
import FormAutomation.Text.Quoted
import FormAutomation.Text.Split

/-!
# Domain names beyond ASCII

A domain name is a row of labels.  A label with characters beyond ASCII travels
in an ASCII form that starts with `xn--`; people are shown the characters.  Not
every text is a label: its characters have to be allowed where they stand, and
it has to run in one direction.
-/

namespace FormAutomation.Network.DomainName

open Text

/-- Why a text is no domain name. -/
inductive Fault where
  /-- there are no labels -/
  | emptyDomain
  /-- the whole is too long -/
  | domainTooLong
  /-- a label is empty -/
  | emptyLabel
  /-- a label is too long -/
  | labelTooLong
  /-- a label is not in composed form -/
  | notComposed
  /-- a label has two hyphens where the ASCII form has them -/
  | hyphensInside
  /-- a label starts or ends with a hyphen -/
  | hyphenOutside
  /-- a label starts with a mark -/
  | markFirst
  /-- a character is not allowed -/
  | forbidden (position : Nat) (label : List Nat)
  /-- a joiner is not allowed where it stands -/
  | joiner (position : Nat) (label : List Nat)
  /-- nothing is known of the character before a joiner -/
  | joinerAfterUnknown (position : Nat) (label : List Nat)
  /-- a character is not allowed in this company -/
  | company (position : Nat) (label : List Nat)
  /-- it is not known in which direction a character runs -/
  | unknownDirection (position : Nat) (label : List Nat)
  /-- a label starts with a character that settles no direction -/
  | directionless (label : List Nat)
  /-- a character does not run from right to left as its label does -/
  | notRightToLeft (position : Nat)
  /-- a character does not run from left to right as its label does -/
  | notLeftToRight (position : Nat)
  /-- a label mixes two kinds of numbers -/
  | mixedNumbers
  /-- a label ends with a character that settles no direction -/
  | ending
  /-- nothing stands after the mark of an ASCII form -/
  | emptyForm
  /-- an ASCII form ends with a hyphen -/
  | formEndsWithHyphen
  /-- an ASCII form cannot be read -/
  | malformed
  /-- an ASCII form is not the one that its label has -/
  | otherForm
  deriving DecidableEq

/-- The code point at a position of a label, in messages. -/
def pointText (position : Nat) (label : List Nat) : String :=
  let digits := (Nat.toDigits 16 (label[position - 1]?.getD 0)).map Char.toUpper
  String.ofList ('U' :: '+' :: List.replicate (4 - digits.length) '0' ++ digits)

/-- What is said of a fault. -/
def Fault.message : Fault → String
  | .emptyDomain => "Empty domain"
  | .domainTooLong => "Domain too long"
  | .emptyLabel => "Empty Label"
  | .labelTooLong => "Label too long"
  | .notComposed => "Label must be in Normalization Form C"
  | .hyphensInside => "Label has disallowed hyphens in 3rd and 4th position"
  | .hyphenOutside => "Label must not start or end with a hyphen"
  | .markFirst => "Label begins with an illegal combining character"
  | .forbidden position label =>
    s!"Codepoint {pointText position label} at position {position} of " ++
      s!"{quotedPoints label} not allowed"
  | .joiner position label =>
    s!"Joiner {pointText position label} not allowed at position {position} in " ++
      quotedPoints label
  | .joinerAfterUnknown position label =>
    s!"Unknown codepoint adjacent to joiner {pointText position label} at position " ++
      s!"{position} in {quotedPoints label}"
  | .company position label =>
    s!"Codepoint {pointText position label} not allowed at position {position} in " ++
      quotedPoints label
  | .unknownDirection position label =>
    s!"Unknown directionality in label {quotedPoints label} at position {position}"
  | .directionless label =>
    s!"First codepoint in label {quotedPoints label} must be directionality L, R or AL"
  | .notRightToLeft position =>
    s!"Invalid direction for codepoint at position {position} in a right-to-left label"
  | .notLeftToRight position =>
    s!"Invalid direction for codepoint at position {position} in a left-to-right label"
  | .mixedNumbers => "Can not mix numeral types in a right-to-left label"
  | .ending => "Label ends with illegal codepoint directionality"
  | .emptyForm => "Malformed A-label, no Punycode eligible content found"
  | .formEndsWithHyphen => "A-label must not end with a hyphen"
  | .malformed => "Invalid A-label"
  | .otherForm => "A-label is not the canonical Punycode encoding of its U-label"

/-! ## Characters in company -/

/-- Whether, past the characters that joining looks through, one of a class
stands at the head. -/
def joins (table : Ranges) (cs : List Char) : Bool :=
  match cs.dropWhile LabelClasses.joinThrough.contains with
  | [] => false
  | c :: _ => table.contains c

/-- Whether a vowel-killing sign stands at the head. -/
def startsWithVirama (cs : List Char) : Bool :=
  cs.head?.any LabelClasses.viramas.contains

/-- Whether a joiner may stand between what is before it, in reverse, and what
is after it. -/
def joinerFits (c : Char) (before after : List Char) : Bool :=
  startsWithVirama before
    || (c == '\u200C' && joins LabelClasses.joinForward before
      && joins LabelClasses.joinBackward after)

/-- Whether a character lies in a range. -/
def isBetween (low high : Nat) (c : Char) : Bool :=
  low ≤ c.toNat && c.toNat ≤ high

/-- Whether a character of the last few fits into its label; nothing if it is
none of them. -/
def fits? (label : List Char) (c : Char) (before after : List Char) : Option Bool :=
  if c = '\u00B7' then some (before.head? == some 'l' && after.head? == some 'l')
  else if c = '\u0375' then some (after.head?.any LabelClasses.greek.contains)
  else if c = '\u05F3' ∨ c = '\u05F4' then some (before.head?.any LabelClasses.hebrew.contains)
  else if c = '\u30FB' then
    some (label.any fun d => d != c && LabelClasses.japanese.contains d)
  else if isBetween 0x660 0x669 c then some (!label.any (isBetween 0x6F0 0x6F9))
  else if isBetween 0x6F0 0x6F9 c then some (!label.any (isBetween 0x660 0x669))
  else none

/-- Checks a joiner: whether one is known of the character before it, in reverse,
and whether it may stand there. -/
def checkJoiner (label : List Nat) (c : Char) (before after : List Char) : Except Fault Unit :=
  if before.head?.any fun b => direction b = .unknown then
    .error (.joinerAfterUnknown (before.length + 1) label)
  else if joinerFits c before after then .ok ()
  else .error (.joiner (before.length + 1) label)

/-- Checks the characters of a label one after the other; what comes before
stands in reverse, and the label is given also as its code points. -/
def checkCharacters (points : List Nat) (label before : List Char) :
    List Char → Except Fault Unit
  | [] => .ok ()
  | c :: after => do
    if LabelClasses.isPermitted c then pure ()
    else if c = '\u200C' ∨ c = '\u200D' then checkJoiner points c before after
    else
      match fits? label c before after with
      | some true => pure ()
      | some false => throw (.company (before.length + 1) points)
      | none => throw (.forbidden (before.length + 1) points)
    checkCharacters points label (c :: before) after

/-! ## Direction -/

/-- Whether a direction is one of those that run from right to left. -/
def isRightward : Direction → Bool
  | .rightToLeft => true
  | .arabicLetter => true
  | .arabicNumber => true
  | _ => false

/-- Whether a label can end with a character of this direction. -/
def canEnd (rightToLeft : Bool) : Direction → Bool
  | .europeanNumber => true
  | .leftToRight => !rightToLeft
  | direction => rightToLeft && isRightward direction

/-- Checks the directions of a label from a position on: whether it could end
here, and the kind of numbers it holds so far. -/
def checkDirections (rightToLeft : Bool) :
    Nat → Bool → Option Direction → List Direction → Except Fault Unit
  | _, ends, _, [] => if ends then .ok () else .error .ending
  | position, ends, numbers, direction :: rest =>
    if direction = .leftToRight ∧ rightToLeft then .error (.notRightToLeft position)
    else if isRightward direction ∧ !rightToLeft then .error (.notLeftToRight position)
    else
      let ends := canEnd rightToLeft direction || (direction == .mark && ends)
      if rightToLeft ∧ (direction = .arabicNumber ∨ direction = .europeanNumber) then
        match numbers with
        | none => checkDirections rightToLeft (position + 1) ends (some direction) rest
        | some other =>
          if other = direction then
            checkDirections rightToLeft (position + 1) ends numbers rest
          else .error .mixedNumbers
      else checkDirections rightToLeft (position + 1) ends numbers rest

/-- Checks that a label with characters from right to left runs in one
direction. -/
def checkDirection (points : List Nat) (label : List Char) : Except Fault Unit :=
  let directions := label.map direction
  match directions.findIdx? (· == .unknown) with
  | some i => .error (.unknownDirection (i + 1) points)
  | none =>
    if directions.any isRightward then
      match directions.head? with
      | some .rightToLeft => checkDirections true 1 false none directions
      | some .arabicLetter => checkDirections true 1 false none directions
      | some .leftToRight => checkDirections false 1 false none directions
      | _ => .error (.directionless points)
    else .ok ()

/-! ## Labels -/

/-- Checks that some code points are a label.  One that is no character's is like a
character that is not allowed. -/
def checkPoints (points : List Nat) : Except Fault Unit := do
  let label := points.map charOfPoint
  if label.isEmpty then throw .emptyLabel
  if 254 < label.length then throw .labelTooLong
  if !isComposed label then throw .notComposed
  if (label.drop 2).take 2 = ['-', '-'] then throw .hyphensInside
  if label.head? = some '-' ∨ label.getLast? = some '-' then throw .hyphenOutside
  if label.head?.any markRanges.contains then throw .markFirst
  checkCharacters points label [] label
  checkDirection points label

/-- Checks that a text is a label. -/
def checkLabel (label : List Char) : Except Fault Unit :=
  checkPoints (label.map Char.toNat)

/-- The mark of an ASCII form. -/
def formMark : List Char := ['x', 'n', '-', '-']

/-- Whether the character is in ASCII. -/
def isBasic (c : Char) : Bool :=
  c.toNat < 128

/-- The label that people are shown for one in ASCII. -/
def labelShown (label : List Char) : Except Fault (List Char) :=
  let label := label.map Char.toLower
  if formMark.isPrefixOf label then
    let form := label.drop 4
    if form.isEmpty then .error .emptyForm
    else if form.getLast? = some '-' then .error .formEndsWithHyphen
    else
      match Text.Punycode.decode form with
      | none => .error .malformed
      | some points => do
        checkPoints points
        let shown := points.map charOfPoint
        if Text.Punycode.encode shown = form then return shown else throw .otherForm
  else (checkLabel label).map fun _ => label

/-- The label that travels. -/
def labelSent (label : List Char) : Except Fault (List Char) := do
  let sent ←
    if label.all isBasic then (labelShown label).map fun _ => label
    else (checkLabel label).map fun _ => formMark ++ Text.Punycode.encode label
  if 63 < sent.length then throw .labelTooLong
  .ok sent

/-! ## Domain names -/

/-- Whether a character separates labels. -/
def isDot (c : Char) : Bool :=
  c == '.' || c == '\u3002' || c == '\uFF0E' || c == '\uFF61'

/-- The labels of a name, and whether a dot stands at its end. -/
def labels (name : List Char) : List (List Char) × Bool :=
  let parts := Text.splitOn '.' (name.map fun c => if isDot c then '.' else c)
  match parts.reverse with
  | [] :: before => (before.reverse, true)
  | _ => (parts, false)

/-- A name of which each label was changed. -/
def convert (change : List Char → Except Fault (List Char)) (limit : Nat → Nat → Bool)
    (name : List Char) : Except Fault (List Char) := do
  if 254 < name.length then throw .domainTooLong
  let (parts, dot) := labels name
  if parts.isEmpty then throw .emptyDomain
  let parts ← parts.mapM change
  let result := ['.'].intercalate (if dot then parts ++ [[]] else parts)
  if limit result.length (if dot then 254 else 253) then throw .domainTooLong
  .ok result

/-- The name that travels. -/
def sent (name : List Char) : Except Fault (List Char) :=
  convert labelSent (fun length limit => limit < length) name

/-- The name that people are shown. -/
def shown (name : List Char) : Except Fault (List Char) :=
  convert labelShown (fun _ _ => false) name

end FormAutomation.Network.DomainName
