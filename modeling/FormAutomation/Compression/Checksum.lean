/-!
# Checksums

Two numbers that tell whether bytes arrived as they were sent.  The one of
Adler adds up the bytes, and the sums so far.  The cyclic one is what remains of
the bytes, taken as a polynomial over two elements, after division by a fixed
one; the lowest bit stands for the highest power.
-/

namespace FormAutomation.Compression

/-! ## The sums of Adler -/

/-- The largest prime number below two to the sixteenth. -/
def adlerModulus : Nat := 65521

/-- The sums with one more byte. -/
def adlerStep (sums : Nat × Nat) (byte : UInt8) : Nat × Nat :=
  let a := (sums.1 + byte.toNat) % adlerModulus
  (a, (sums.2 + a) % adlerModulus)

/-- The checksum of Adler. -/
def adler32 (bytes : List UInt8) : Nat :=
  let (a, b) := bytes.foldl adlerStep (1, 0)
  b * 0x10000 + a

/-! ## The cyclic checksum -/

/-- The polynomial that is divided by, without its highest power. -/
def cyclicPolynomial : UInt32 := 0xEDB88320

/-- One step of the division. -/
def cyclicShift (remainder : UInt32) : UInt32 :=
  if remainder &&& 1 = 1 then (remainder >>> 1) ^^^ cyclicPolynomial else remainder >>> 1

/-- The remainder with one more byte. -/
def cyclicStep (remainder : UInt32) (byte : UInt8) : UInt32 :=
  Nat.repeat cyclicShift 8 (remainder ^^^ byte.toUInt32)

/-- The cyclic checksum of 32 bits. -/
def crc32 (bytes : List UInt8) : Nat :=
  (bytes.foldl cyclicStep 0xFFFFFFFF ^^^ 0xFFFFFFFF).toNat

end FormAutomation.Compression
