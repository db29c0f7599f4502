import FormAutomation.Text.Ranges

/-!
# Decimal digits of every script

A decimal digit is a character with a value from zero to nine that takes part in
positional notation; every script that has them lists them in order, so the
zeros alone describe the class.  Superscripts and circled numbers are none.
-/

namespace FormAutomation.Text

/-- The zeros of the scripts, in ascending order. -/
def digitZeros : List Nat :=
  [0x30, 0x660, 0x6F0, 0x7C0, 0x966, 0x9E6, 0xA66, 0xAE6, 0xB66, 0xBE6, 0xC66, 0xCE6,
   0xD66, 0xDE6, 0xE50, 0xED0, 0xF20, 0x1040, 0x1090, 0x17E0, 0x1810, 0x1946, 0x19D0, 0x1A80,
   0x1A90, 0x1B50, 0x1BB0, 0x1C40, 0x1C50, 0xA620, 0xA8D0, 0xA900, 0xA9D0, 0xA9F0, 0xAA50, 0xABF0,
   0xFF10, 0x104A0, 0x10D30, 0x11066, 0x110F0, 0x11136, 0x111D0, 0x112F0, 0x11450, 0x114D0, 0x11650, 0x116C0,
   0x11730, 0x118E0, 0x11950, 0x11C50, 0x11D50, 0x11DA0, 0x16A60, 0x16AC0, 0x16B50, 0x1D7CE, 0x1D7D8, 0x1D7E2,
   0x1D7EC, 0x1D7F6, 0x1E140, 0x1E2F0, 0x1E950, 0x1FBF0]

/-- The value of a decimal digit. -/
def digitValue? (c : Char) : Option Nat :=
  (digitZeros.find? fun z => z ≤ c.toNat && c.toNat < z + 10).map (c.toNat - ·)

/-- Whether the character is a decimal digit of some script. -/
def isDecimalDigit (c : Char) : Bool :=
  (digitValue? c).isSome

/-- The number that a run of decimal digits writes; other characters count as
zero and are never passed. -/
def digitsValue (cs : List Char) : Nat :=
  cs.foldl (fun n c => 10 * n + (digitValue? c).getD 0) 0

/-- Whether the text is a non-empty run of decimal digits. -/
def isDecimal (cs : List Char) : Bool :=
  !cs.isEmpty && cs.all isDecimalDigit

theorem foldl_digits (b : List Char) (n : Nat) :
    b.foldl (fun n c => 10 * n + (digitValue? c).getD 0) n
      = digitsValue b + n * Nat.pow 10 b.length := by
  induction b generalizing n with
  | nil => simp [digitsValue]
  | cons c cs ih =>
    have head : digitsValue (c :: cs)
        = digitsValue cs + (digitValue? c).getD 0 * Nat.pow 10 cs.length := by
      show List.foldl _ _ (c :: cs) = _
      rw [List.foldl_cons, ih, Nat.mul_zero, Nat.zero_add]
    have power : Nat.pow 10 (cs.length + 1) = Nat.pow 10 cs.length * 10 := rfl
    rw [List.foldl_cons, ih, head, List.length_cons, power, Nat.add_mul]
    have : 10 * n * Nat.pow 10 cs.length = n * (Nat.pow 10 cs.length * 10) := by
      rw [Nat.mul_comm 10 n, Nat.mul_assoc, Nat.mul_comm 10]
    omega

theorem digitsValue_append (a b : List Char) :
    digitsValue (a ++ b) = digitsValue b + digitsValue a * Nat.pow 10 b.length := by
  rw [digitsValue, List.foldl_append, foldl_digits]; rfl

end FormAutomation.Text
