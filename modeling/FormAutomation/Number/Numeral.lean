import FormAutomation.Number.Binary64
import FormAutomation.Text.Blank
import FormAutomation.Text.Digit

/-!
# Numerals in text

Two kinds of numerals are read from text that people type: whole numbers and
decimals.  Both may be surrounded by white space, may carry a sign, take decimal
digits of every script, and allow a single underscore between two digits.  Whole
numbers are of bounded length, so that reading one takes little time.  A
decimal may also be `inf`, `infinity` or `nan` in any letter case; it is rounded
to the nearest double, beyond the range to an infinity.
-/

namespace FormAutomation.Numeral

open Text

/-- A sign at the head, and what follows it. -/
def sign : List Char → Bool × List Char
  | '-' :: cs => (true, cs)
  | '+' :: cs => (false, cs)
  | cs => (false, cs)

/-- Whether a digit stands at the head. -/
def startsWithDigit : List Char → Bool
  | c :: _ => isDecimalDigit c
  | [] => false

/-- The digits at the head, underscores that stand between two digits left out,
and what follows. -/
def digitRun : List Char → List Char × List Char
  | [] => ([], [])
  | [c] => if isDecimalDigit c then ([c], []) else ([], [c])
  | c :: d :: cs =>
    if isDecimalDigit c then
      if d == '_' && startsWithDigit cs then
        let run := digitRun cs
        (c :: run.1, run.2)
      else
        let run := digitRun (d :: cs)
        (c :: run.1, run.2)
    else ([], c :: d :: cs)

/-- The numeral without the white space around it. -/
def body (cs : List Char) : List Char :=
  trimWhile isNumeralBlank cs

/-- How many digits a whole number may have. -/
def longest : Nat := 4300

/-- How many digits the whole number at the head has, if those are too many. -/
def overlong? (cs : List Char) : Option Nat :=
  let (digits, rest) := digitRun (sign (body cs)).2
  if longest < digits.length && rest.head? != some '_' then some digits.length else none

/-- A whole number. -/
def readInt (cs : List Char) : Option Int :=
  let (negative, rest) := sign (body cs)
  let (digits, rest) := digitRun rest
  if digits.isEmpty || !rest.isEmpty || longest < digits.length then none
  else
    let n : Int := digitsValue digits
    some (if negative then -n else n)

/-- An exponent mark with its whole number, or nothing at all; `none` when
something else stands there. -/
def exponent (cs : List Char) : Option Int :=
  match cs with
  | [] => some 0
  | c :: rest =>
    if c == 'e' || c == 'E' then
      let (negative, rest) := sign rest
      let (digits, rest) := digitRun rest
      if digits.isEmpty || !rest.isEmpty then none
      else
        let n : Int := digitsValue digits
        some (if negative then -n else n)
    else none

/-- Digits with an optional point and an optional exponent: the digits as one
whole number, and the power of ten that its last digit stands for. -/
def readMagnitude (cs : List Char) : Option (Nat × Int) :=
  let (whole, rest) := digitRun cs
  let (fraction, rest) :=
    match rest with
    | '.' :: after => digitRun after
    | _ => ([], rest)
  if whole.isEmpty && fraction.isEmpty then none
  else (exponent rest).map fun e => (digitsValue (whole ++ fraction), e - fraction.length)

/-- The words that stand for a number without digits. -/
def word? (negative : Bool) (cs : List Char) : Option Binary64 :=
  let lowered := String.ofList (cs.map Char.toLower)
  if lowered == "inf" || lowered == "infinity" then some (.infinity negative)
  else if lowered == "nan" then some .nan
  else none

/-- A decimal, rounded to the nearest double. -/
def readDouble (cs : List Char) : Option Binary64 :=
  let (negative, rest) := sign (body cs)
  match word? negative rest with
  | some x => some x
  | none => (readMagnitude rest).map fun (digits, e) => Binary64.ofDecimal negative digits e

end FormAutomation.Numeral
