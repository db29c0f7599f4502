import FormAutomation.Number.Binary64

/-!
# The fewest digits

A double is written with the fewest decimal digits that read back as it.  For
one digit, two digits and so on the two neighbours of the value among the
decimals of that many digits are tried; the first count at which one of them
reads back wins, and of two that do, the nearer (on a tie the even one).
Seventeen digits always suffice.
-/

namespace FormAutomation

/-- A non-negative decimal, `digits * 10 ^ exponent`. -/
structure Decimal where
  /-- the digits, as a whole number -/
  digits : Nat
  /-- the power of ten that the last digit stands for -/
  exponent : Int
  deriving DecidableEq

namespace Decimal

/-- The digits of a natural number in base ten. -/
def digitsOf (n : Nat) : List Char :=
  Nat.toDigits 10 n

/-- The decimal without zeros at the end of its digits; at most `fuel` of them
are taken away. -/
def strip : Nat → Decimal → Decimal
  | 0, d => d
  | fuel + 1, d =>
    if d.digits ≠ 0 ∧ d.digits % 10 = 0 then strip fuel ⟨d.digits / 10, d.exponent + 1⟩ else d

/-- Where the point stands: the decimal is `0.ddd… * 10 ^ point`. -/
def point (d : Decimal) : Int :=
  (digitsOf d.digits).length + d.exponent

end Decimal

namespace Binary64

/-- The least `k` with `num / den < 10 ^ k`, for a positive ratio. -/
def decimalPoint (num den : Nat) : Int :=
  if den ≤ num then (Decimal.digitsOf (num / den)).length
  else
    let zeros : Nat := (Decimal.digitsOf (den / num)).length - 1
    if num * Nat.pow 10 zeros < den then -(zeros : Int) else 1 - (zeros : Int)

/-- Whether a decimal reads back as this magnitude. -/
def readsBack (m : Nat) (e : Int) (d : Decimal) : Bool :=
  match ofDecimal false d.digits d.exponent with
  | .finite _ m' e' _ => m == m' && e == e'
  | _ => false

/-- Of the two neighbours of `num / den` on the grid `10 ^ g`, one that reads
back, the nearer if both do. -/
def neighbour? (num den m : Nat) (e g : Int) : Option Decimal :=
  let scaledNum := num * Nat.pow 10 (-g).toNat
  let scaledDen := den * Nat.pow 10 g.toNat
  let low := scaledNum / scaledDen
  let below : Decimal := ⟨low, g⟩
  let above : Decimal := ⟨low + 1, g⟩
  match readsBack m e below, readsBack m e above with
  | true, true => some ⟨roundHalfEven scaledNum scaledDen, g⟩
  | true, false => some below
  | false, true => some above
  | false, false => none

/-- The decimal with the fewest digits that reads back as `m * 2 ^ e`. -/
def shortest (m : Nat) (e : Int) : Decimal :=
  if m = 0 then ⟨0, 0⟩
  else
    let num := m * Nat.pow 2 e.toNat
    let den := Nat.pow 2 (-e).toNat
    let k := decimalPoint num den
    let found := (List.range 17).findSome? fun (n : Nat) => neighbour? num den m e (k - 1 - n)
    (found.getD ⟨num * Nat.pow 5 (-e).toNat, -((-e).toNat : Int)⟩).strip 1100

end Binary64

end FormAutomation
