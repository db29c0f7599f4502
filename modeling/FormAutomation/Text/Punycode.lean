/-!
# Punycode

A label with characters beyond ASCII is written in ASCII: first its ASCII
characters, then, after a hyphen, where the others are to be inserted.  The
insertions are ordered by code point and then by place, and each is written as
its distance from the one before, in base 36 with the least digit first.  How
many digits a distance takes adapts to the distances so far (`adapt`).
-/

namespace FormAutomation.Text.Punycode

/-- The digit of a value below 36. -/
def digit (n : Nat) : Char :=
  if n < 26 then Char.ofNat (97 + n) else Char.ofNat (22 + n)

/-- The value of a digit. -/
def digitValue? (c : Char) : Option Nat :=
  if 'a' ≤ c ∧ c ≤ 'z' then some (c.toNat - 97)
  else if 'A' ≤ c ∧ c ≤ 'Z' then some (c.toNat - 65)
  else if c.isDigit then some (c.toNat - 22)
  else none

/-- The least value of a digit that is followed by another one. -/
def threshold (k bias : Nat) : Nat :=
  if k ≤ bias then 1 else if bias + 26 ≤ k then 26 else k - bias

theorem threshold_pos (k bias : Nat) : 0 < threshold k bias := by
  unfold threshold; split
  · omega
  · split <;> omega

/-- Brings a distance below 456, counting by how much. -/
def shrink (delta k : Nat) : Nat × Nat :=
  if 455 < delta then shrink (delta / 35) (k + 36) else (delta, k)
termination_by delta

/-- The bias after a distance, with so many characters in place. -/
def adapt (delta count : Nat) (first : Bool) : Nat :=
  let delta := if first then delta / 700 else delta / 2
  let (delta, k) := shrink (delta + delta / count) 0
  k + 36 * delta / (delta + 38)

/-! ## Writing -/

/-- The digits of a distance. -/
def distanceDigits (bias k q : Nat) : List Char :=
  let t := threshold k bias
  if q < t then [digit q]
  else digit (t + (q - t) % (36 - t)) :: distanceDigits bias (k + 36) ((q - t) / (36 - t))
termination_by q
decreasing_by
  have := threshold_pos k bias
  have := Nat.div_le_self (q - threshold k bias) (36 - threshold k bias)
  omega

/-- Where writing stands. -/
structure Writing where
  /-- the digits so far -/
  digits : List Char
  /-- the distance since the last insertion -/
  delta : Nat
  /-- the bias -/
  bias : Nat
  /-- how many characters are in place -/
  count : Nat
  /-- whether nothing was inserted yet -/
  first : Bool

/-- Passes a character of the label while those with code point `n` are
inserted. -/
def pass (n : Nat) (w : Writing) (c : Char) : Writing :=
  if c.toNat < n then { w with delta := w.delta + 1 }
  else if c.toNat = n then
    { digits := w.digits ++ distanceDigits w.bias 36 w.delta
      delta := 0
      bias := adapt w.delta (w.count + 1) w.first
      count := w.count + 1
      first := false }
  else w

/-- Inserts the characters of each code point in turn; `n` is the least that may
come next. -/
def insertAll (label : List Char) : List Nat → Nat → Writing → Writing
  | [], _, w => w
  | m :: rest, n, w =>
    let w := { w with delta := w.delta + (m - n) * (w.count + 1) }
    let w := label.foldl (pass m) w
    insertAll label rest (m + 1) { w with delta := w.delta + 1 }

/-- Whether the character is in ASCII. -/
def isBasic (c : Char) : Bool :=
  c.toNat < 128

/-- The ASCII form of a label. -/
def encode (label : List Char) : List Char :=
  let basic := label.filter isBasic
  let others := ((label.filter (!isBasic ·)).map Char.toNat).mergeSort.eraseDups
  let start : Writing :=
    { digits := [], delta := 0, bias := 72, count := basic.length, first := true }
  basic ++ (if basic.isEmpty then [] else ['-']) ++ (insertAll label others 128 start).digits

/-! ## Reading -/

/-- The distance at the head of digits, and the digits after it. -/
def readDistance (bias : Nat) : Nat → Nat → List Char → Option (Nat × List Char)
  | _, _, [] => none
  | k, w, c :: rest =>
    match digitValue? c with
    | none => none
    | some d =>
      let t := threshold k bias
      if d < t then some (d * w, rest)
      else (readDistance bias (k + 36) (w * (36 - t)) rest).map fun (q, rest) => (d * w + q, rest)

/-- The code points of the label with all insertions made, and whether all digits
were read.  Where the points end, reading ends too, unless another point is given to
go on from.  Every insertion takes at least one digit, so as many are tried as there
are digits. -/
def readAll (beyond? : Option Nat) :
    Nat → List Nat → List Char → Nat → Nat → Nat → Bool → List Nat × Bool
  | _, label, [], _, _, _, _ => (label, true)
  | 0, label, _ :: _, _, _, _, _ => (label, false)
  | fuel + 1, label, d :: digits, n, place, bias, first =>
    match readDistance bias 36 1 (d :: digits) with
    | none => (label, false)
    | some (delta, rest) =>
      let length := label.length + 1
      let place := place + delta
      let n? := if n + place / length ≤ 0x10FFFF then some (n + place / length) else beyond?
      let place := place % length
      match n? with
      | none => (label, false)
      | some n =>
        let label := label.take place ++ n :: label.drop place
        readAll beyond? fuel label rest n (place + 1) (adapt delta length first) false

/-- The parts of an ASCII form before and after its last hyphen. -/
def parts {α : Type} [BEq α] (hyphen : α) (form : List α) : List α × List α :=
  let reversed := form.reverse
  let digits := (reversed.takeWhile (· != hyphen)).reverse
  (((reversed.drop digits.length).drop 1).reverse, digits)

/-- The code points of the label of an ASCII form; not all of them need be those of
characters. -/
def decode (form : List Char) : Option (List Nat) :=
  let (basic, digits) := parts '-' form
  let (label, complete) := readAll none digits.length (basic.map Char.toNat) digits 128 0 72 true
  if complete then some label else none

/-- The byte after the last hyphen that is not in ASCII, and its place there. -/
def strayByte? (bytes : List UInt8) : Option (UInt8 × Nat) :=
  let digits := (parts 0x2D bytes).2
  (digits.find? (128 ≤ ·)).map fun byte => (byte, digits.findIdx (128 ≤ ·))

/-- The code points of a text of bytes as far as they can be told: what stands before
the last hyphen without being ASCII is replaced, insertions end where a distance
cannot be read, and beyond the last point a question mark is inserted. -/
def decodeLossy (bytes : List UInt8) : List Nat :=
  let (basic, digits) := parts 0x2D bytes
  let basic := basic.map fun byte => if byte < 128 then byte.toNat else 0xFFFD
  let digits := digits.map fun byte => Char.ofNat byte.toNat
  (readAll (some 0x3F) digits.length basic digits 128 0 72 true).1

end FormAutomation.Text.Punycode
