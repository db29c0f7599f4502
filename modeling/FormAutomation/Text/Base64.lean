/-!
# Base 64

Three bytes are written as four characters of six bits each.  A last group of
fewer bytes is filled up with bits of zero, and the characters that stand for
none of its bits are written as equals signs.
-/

namespace FormAutomation.Text.Base64

/-- The characters for six bits, in order. -/
def alphabet : String :=
  "ABCDEFGHIJKLMNOPQRSTUVWXYZabcdefghijklmnopqrstuvwxyz0123456789+/"

/-- The character for six bits. -/
def digit (n : Nat) : Char :=
  alphabet.toList[n % 64]?.getD '='

/-- The characters for some bytes. -/
def encode : List UInt8 → List Char
  | [] => []
  | [a] =>
    let n := 16 * a.toNat
    [digit (n / 64), digit n, '=', '=']
  | [a, b] =>
    let n := 4 * (256 * a.toNat + b.toNat)
    [digit (n / 4096), digit (n / 64), digit n, '=']
  | a :: b :: c :: rest =>
    let n := 65536 * a.toNat + 256 * b.toNat + c.toNat
    [digit (n / 262144), digit (n / 4096), digit (n / 64), digit n] ++ encode rest

end FormAutomation.Text.Base64
