/-!
# Prefix codes

Symbols of different length written one after the other can be told apart when
none starts another.  Such a code is fixed by the lengths alone: shorter ones
come first, and those of one length follow each other as numbers, in the order of
their symbols.

A code is *complete* when every row of bits is in it.  A row that is in no code
is told as early as the lengths allow.
-/

namespace FormAutomation.Compression

/-! ## Numbers in bits -/

/-- The bits of bytes, the lowest of each byte first. -/
def bitsOf (bytes : List UInt8) : List Bool :=
  bytes.flatMap fun byte => (List.range 8).map fun i => byte.toNat.testBit i

/-- The number in so many bits, the lowest first, and the bits after it. -/
def readNumber : Nat → List Bool → Option (Nat × List Bool)
  | 0, bits => some (0, bits)
  | _ + 1, [] => none
  | n + 1, b :: bits => (readNumber n bits).map fun (high, rest) => (2 * high + b.toNat, rest)

theorem length_of_readNumber {n value : Nat} {bits rest : List Bool}
    (h : readNumber n bits = some (value, rest)) : rest.length + n = bits.length := by
  induction n generalizing bits value with
  | zero => simp_all [readNumber]
  | succ n ih =>
    cases bits with
    | nil => simp [readNumber] at h
    | cons b bits =>
      simp only [readNumber, Option.map_eq_some_iff, Prod.mk.injEq, Prod.exists] at h
      obtain ⟨high, rest', h, -, rfl⟩ := h
      have := ih h
      simp only [List.length_cons]
      omega

/-! ## Codes -/

/-- A code, by the numbers of symbols of each length and the symbols in their
order. -/
structure PrefixCode where
  /-- how many symbols take one bit, two bits and so on -/
  counts : List Nat
  /-- the symbols, shorter ones first -/
  symbols : Array Nat

namespace PrefixCode

/-- How much room the lengths leave, in symbols of the last length; nothing if
there is too little. -/
def room : List Nat → Nat → Option Nat
  | [], left => some left
  | count :: counts, left => if 2 * left < count then none else room counts (2 * left - count)

/-- The code in which the symbol of each place has the length that stands there;
zero for a symbol that is not in the code.  It has to be complete, but for one
without symbols and, where that is said, one with a single symbol of one bit. -/
def ofLengths? (mayLack : Bool) (lengths : List Nat) : Option PrefixCode :=
  let longest := lengths.foldl max 0
  let ofLength (n : Nat) : List Nat :=
    (lengths.zipIdx.filter fun entry => entry.1 == n).map (·.2)
  let rows := (List.range longest).map fun i => ofLength (i + 1)
  if longest = 0 then some ⟨[0], #[]⟩
  else
    match room (rows.map List.length) 1 with
    | none => none
    | some left =>
      if left = 0 || (mayLack && longest == 1) then
        some ⟨rows.map List.length, rows.flatten.toArray⟩
      else none

/-- What stands at the head of bits. -/
inductive Found where
  /-- a symbol, and the bits after it -/
  | symbol (symbol : Nat) (rest : List Bool)
  /-- the start of a symbol -/
  | short
  /-- nothing that is in the code -/
  | unknown

/-- Looks for the symbol at the head of bits: `code` is the number that the bits
so far make, `first` the least number of the next length and `index` the place of
its symbol. -/
def search (symbols : Array Nat) (code first index : Nat) : List Nat → List Bool → Found
  | [], _ => .unknown
  | _ :: _, [] => .short
  | count :: counts, b :: bits =>
    let code := 2 * code + b.toNat
    let first := 2 * first
    if code < first + count then
      match symbols[index + (code - first)]? with
      | some symbol => .symbol symbol bits
      | none => .unknown
    else search symbols code (first + count) (index + count) counts bits

/-- What stands at the head of bits. -/
def find (code : PrefixCode) (bits : List Bool) : Found :=
  search code.symbols 0 0 0 code.counts bits

theorem length_of_search {symbols : Array Nat} {code first index symbol : Nat}
    {counts : List Nat} {bits rest : List Bool}
    (h : search symbols code first index counts bits = .symbol symbol rest) :
    rest.length < bits.length := by
  induction counts generalizing code first index bits with
  | nil => simp [search] at h
  | cons count counts ih =>
    cases bits with
    | nil => simp [search] at h
    | cons b bits =>
      simp only [search] at h
      split at h
      · split at h
        · injection h with _ h
          simp [h]
        · exact nomatch h
      · have := ih h
        simp only [List.length_cons]
        omega

/-- A symbol takes at least one bit. -/
theorem length_of_find {code : PrefixCode} {symbol : Nat} {bits rest : List Bool}
    (h : code.find bits = .symbol symbol rest) : rest.length < bits.length :=
  length_of_search h

end PrefixCode

end FormAutomation.Compression
