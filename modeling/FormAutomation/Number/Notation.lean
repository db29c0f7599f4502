import FormAutomation.Number.Shortest

/-!
# Writing doubles

Which digits a double gets is settled elsewhere (`Binary64.shortest`); here they
are laid out.  A value whose first digit stands for at least `10 ^ -4` and less
than `10 ^ 16` is written with its point in place and at least one digit after
it, any other with an exponent that always shows its sign and two digits.  Those
decisions form one record, `Layout`.
-/

namespace FormAutomation

/-- The decisions of a way to write doubles. -/
structure Layout where
  /-- the least power of ten of a first digit that is written in place -/
  leastPlain : Int
  /-- the least power of ten of a first digit that needs an exponent again -/
  leastLarge : Int
  /-- the least number of digits of an exponent -/
  exponentDigits : Nat
  /-- the word for what is no number -/
  nan : String
  /-- the word for infinity -/
  infinity : String

namespace Layout

/-- How numbers are shown in texts. -/
def plain : Layout where
  leastPlain := -4
  leastLarge := 16
  exponentDigits := 2
  nan := "nan"
  infinity := "inf"

/-- How numbers are written inside JSON. -/
def json : Layout :=
  { plain with nan := "NaN", infinity := "Infinity" }

/-- As many zeros as bring the digits to a length. -/
def padLeft (length : Nat) (digits : List Char) : List Char :=
  List.replicate (length - digits.length) '0' ++ digits

/-- An exponent with its sign. -/
def exponentText (layout : Layout) (e : Int) : List Char :=
  let sign := if e < 0 then '-' else '+'
  'e' :: sign :: padLeft layout.exponentDigits (Decimal.digitsOf e.natAbs)

/-- A non-negative decimal in this layout. -/
def decimalText (layout : Layout) (d : Decimal) : List Char :=
  let digits := Decimal.digitsOf d.digits
  let point := d.point
  let power := point - 1
  if d.digits ≠ 0 ∧ (power < layout.leastPlain ∨ layout.leastLarge ≤ power) then
    match digits with
    | [] => []
    | [single] => single :: layout.exponentText power
    | first :: rest => first :: '.' :: rest ++ layout.exponentText power
  else if d.digits = 0 then ['0', '.', '0']
  else if point ≤ 0 then '0' :: '.' :: List.replicate (-point).toNat '0' ++ digits
  else
    let whole := digits.take point.toNat
    let fraction := digits.drop point.toNat
    whole ++ List.replicate (point.toNat - digits.length) '0' ++ '.' ::
      (if fraction.isEmpty then ['0'] else fraction)

/-- A double in this layout. -/
def write (layout : Layout) : Binary64 → List Char
  | .nan => layout.nan.toList
  | .infinity negative => (if negative then ['-'] else []) ++ layout.infinity.toList
  | .finite negative m e _ =>
    (if negative then ['-'] else []) ++ layout.decimalText (Binary64.shortest m e)

end Layout

/-- A whole number in base ten. -/
def intText (n : Int) : List Char :=
  (if n < 0 then ['-'] else []) ++ Decimal.digitsOf n.natAbs

namespace Binary64

/-- A double with a set number of places: the nearest such decimal to the exact
value, a tie to the even digit. -/
def fixed (places : Nat) : Binary64 → List Char
  | .finite negative m e _ =>
    let scaled := roundHalfEven (m * Nat.pow 2 e.toNat * Nat.pow 10 places) (Nat.pow 2 (-e).toNat)
    let digits := Layout.padLeft (places + 1) (Decimal.digitsOf scaled)
    let whole := digits.take (digits.length - places)
    (if negative then ['-'] else []) ++ whole ++
      (if places = 0 then [] else '.' :: digits.drop (digits.length - places))
  | x => Layout.plain.write x

end Binary64

end FormAutomation
