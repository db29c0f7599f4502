import FormAutomation.Compression.PrefixCode

/-!
# Compressed data

Compressed data is a row of blocks.  A block holds bytes as they are, or symbols
in prefix codes: bytes, and *matches* that say how many bytes to repeat from how
far back.  The codes are fixed, or stand at the head of the block as the lengths
of their symbols, which are themselves in a code.

Data that ends early is no fault: it comes to what could be read of it.
-/

namespace FormAutomation.Compression

/-- Why compressed data cannot be read. -/
inductive Fault where
  /-- the data does not start as it should -/
  | header
  /-- the method of compression is not known -/
  | method
  /-- matches may reach too far back -/
  | window
  /-- something is needed that came before the data -/
  | dictionary
  /-- the header has marks that are not known -/
  | marks
  /-- the header has another checksum -/
  | headerChecksum
  /-- there is no such kind of block -/
  | block
  /-- the length of bytes as they are is not confirmed -/
  | plainLength
  /-- there are more symbols than can be -/
  | symbolCount
  /-- the code of lengths is none -/
  | lengthCode
  /-- a length is repeated that is not there, or too often -/
  | lengthRepeat
  /-- the block cannot end -/
  | noEnd
  /-- the code of bytes and match lengths is none -/
  | literalCode
  /-- the code of distances is none -/
  | distanceCode
  /-- there is no such byte or match length -/
  | literal
  /-- there is no such distance -/
  | distance
  /-- a distance reaches back before the start -/
  | tooFarBack
  /-- the data has another checksum -/
  | checksum
  /-- the data has another length -/
  | length
  deriving DecidableEq

/-- What is wrong with the data. -/
def Fault.reason : Fault → String
  | .header => "incorrect header check"
  | .method => "unknown compression method"
  | .window => "invalid window size"
  | .dictionary => "need dictionary"
  | .marks => "unknown header flags set"
  | .headerChecksum => "header crc mismatch"
  | .block => "invalid block type"
  | .plainLength => "invalid stored block lengths"
  | .symbolCount => "too many length or distance symbols"
  | .lengthCode => "invalid code lengths set"
  | .lengthRepeat => "invalid bit length repeat"
  | .noEnd => "invalid code -- missing end-of-block"
  | .literalCode => "invalid literal/lengths set"
  | .distanceCode => "invalid distances set"
  | .literal => "invalid literal/length code"
  | .distance => "invalid distance code"
  | .tooFarBack => "invalid distance too far back"
  | .checksum => "incorrect data check"
  | .length => "incorrect length check"

/-- What is said of a fault. -/
def Fault.message (fault : Fault) : String :=
  s!"Error -3 while decompressing data: {fault.reason}"

/-- What reading came to, and the bits after it; nothing where the data ends
early. -/
abbrev Part (α : Type) := Option (α × List Bool)

/-! ## Matches -/

/-- The shortest length of a row of lengths, and how many bits say which of them it
is. -/
def matchLengths : List (Nat × Nat) :=
  [(3, 0), (4, 0), (5, 0), (6, 0), (7, 0), (8, 0), (9, 0), (10, 0), (11, 1), (13, 1), (15, 1),
   (17, 1), (19, 2), (23, 2), (27, 2), (31, 2), (35, 3), (43, 3), (51, 3), (59, 3), (67, 4),
   (83, 4), (99, 4), (115, 4), (131, 5), (163, 5), (195, 5), (227, 5), (258, 0)]

/-- The shortest distance of a row of distances, and how many bits say which of
them it is. -/
def matchDistances : List (Nat × Nat) :=
  [(1, 0), (2, 0), (3, 0), (4, 0), (5, 1), (7, 1), (9, 2), (13, 2), (17, 3), (25, 3), (33, 4),
   (49, 4), (65, 5), (97, 5), (129, 6), (193, 6), (257, 7), (385, 7), (513, 8), (769, 8),
   (1025, 9), (1537, 9), (2049, 10), (3073, 10), (4097, 11), (6145, 11), (8193, 12), (12289, 12),
   (16385, 13), (24577, 13)]

/-- The codes of a block. -/
structure BlockCodes where
  /-- the code of bytes and match lengths -/
  literals : PrefixCode
  /-- the code of distances -/
  distances : PrefixCode

/-- The length and distance of a match, of which the symbol of the length was
read. -/
def readMatch (codes : BlockCodes) (symbol : Nat) (bits : List Bool) :
    Except Fault (Part (Nat × Nat)) :=
  match matchLengths[symbol - 257]? with
  | none => .error .literal
  | some (shortest, width) =>
    match readNumber width bits with
    | none => .ok none
    | some (more, bits) =>
      let length := shortest + more
      match codes.distances.find bits with
      | .short => .ok none
      | .unknown => .error .distance
      | .symbol symbol bits =>
        match matchDistances[symbol]? with
        | none => .error .distance
        | some (shortest, width) =>
          .ok ((readNumber width bits).map fun (more, bits) => ((length, shortest + more), bits))

theorem length_of_readMatch {codes : BlockCodes} {symbol : Nat} {bits rest : List Bool}
    {value : Nat × Nat} (h : readMatch codes symbol bits = .ok (some (value, rest))) :
    rest.length ≤ bits.length := by
  unfold readMatch at h
  split at h
  · exact nomatch h
  · split at h
    · exact nomatch h
    · rename_i hn
      have h1 := length_of_readNumber hn
      dsimp only at h
      split at h
      · exact nomatch h
      · exact nomatch h
      · rename_i hf
        have h2 := PrefixCode.length_of_find hf
        split at h
        · exact nomatch h
        · simp only [Except.ok.injEq, Option.map_eq_some_iff, Prod.mk.injEq, Prod.exists] at h
          obtain ⟨more, rest', h, -, rfl⟩ := h
          have h3 := length_of_readNumber h
          omega

/-- Bytes with so many of them repeated, each from the same distance. -/
def repeated (output : Array UInt8) (distance : Nat) : Nat → Array UInt8
  | 0 => output
  | n + 1 => repeated (output.push (output[output.size - distance]?.getD 0)) distance n

/-- What a block with codes is made of. -/
inductive Piece where
  /-- a byte -/
  | byte (byte : UInt8)
  /-- bytes that are repeated from a distance -/
  | copy (length distance : Nat)
  /-- the end of the block -/
  | ending

/-- The piece at the head of bits. -/
def readPiece (codes : BlockCodes) (bits : List Bool) : Except Fault (Part Piece) :=
  match codes.literals.find bits with
  | .short => .ok none
  | .unknown => .error .literal
  | .symbol symbol rest =>
    if symbol < 256 then .ok (some (.byte (UInt8.ofNat symbol), rest))
    else if symbol = 256 then .ok (some (.ending, rest))
    else (readMatch codes symbol rest).map fun part =>
      part.map fun (value, rest) => (.copy value.1 value.2, rest)

theorem length_of_readPiece {codes : BlockCodes} {bits rest : List Bool} {piece : Piece}
    (h : readPiece codes bits = .ok (some (piece, rest))) : rest.length < bits.length := by
  unfold readPiece at h
  split at h
  · exact nomatch h
  · exact nomatch h
  · rename_i hf
    have hf := PrefixCode.length_of_find hf
    split at h
    · simp_all
    · split at h
      · simp_all
      · rename_i symbol rest' _ _ _
        cases hm : readMatch codes symbol rest' with
        | error => simp [hm, Except.map] at h
        | ok part =>
          cases part with
          | none => simp [hm, Except.map] at h
          | some part =>
            have := length_of_readMatch hm
            simp only [hm, Except.map, Option.map_some, Except.ok.injEq, Option.some.injEq,
              Prod.mk.injEq] at h
            obtain ⟨-, rfl⟩ := h
            omega

/-! ## Blocks -/

/-- What the reading of a block came to: the bytes so far, and the bits after the
block, if the data does not end early. -/
abbrev Output := Array UInt8 × Option (List Bool)

/-- Reads pieces to the end of their block. -/
def readPieces (codes : BlockCodes) (output : Array UInt8) (bits : List Bool) :
    Except Fault Output :=
  match _h : readPiece codes bits with
  | .error fault => .error fault
  | .ok none => .ok (output, none)
  | .ok (some (.ending, rest)) => .ok (output, some rest)
  | .ok (some (.byte byte, rest)) => readPieces codes (output.push byte) rest
  | .ok (some (.copy length distance, rest)) =>
    if output.size < distance then .error .tooFarBack
    else readPieces codes (repeated output distance length) rest
termination_by bits.length
decreasing_by
  · exact length_of_readPiece _h
  · exact length_of_readPiece _h

theorem length_of_readPieces {codes : BlockCodes} {output bytes : Array UInt8}
    {bits rest : List Bool} (h : readPieces codes output bits = .ok (bytes, some rest)) :
    rest.length < bits.length := by
  fun_induction readPieces codes output bits with
  | case3 _ _ _ hp =>
    simp only [Except.ok.injEq, Prod.mk.injEq, Option.some.injEq] at h
    obtain ⟨-, rfl⟩ := h
    exact length_of_readPiece hp
  | case4 _ _ _ _ hp ih => exact Nat.lt_trans (ih h) (length_of_readPiece hp)
  | case6 _ _ _ _ _ hp _ ih => exact Nat.lt_trans (ih h) (length_of_readPiece hp)
  | _ => simp at h

/-! ### Codes -/

/-- The codes of a block that brings none. -/
def fixedCodes : Option BlockCodes := do
  let literals ← PrefixCode.ofLengths? false
    (List.replicate 144 8 ++ List.replicate 112 9 ++ List.replicate 24 7 ++ List.replicate 8 8)
  let distances ← PrefixCode.ofLengths? false (List.replicate 32 5)
  return ⟨literals, distances⟩

/-- So many numbers in so many bits each. -/
def readNumbers (width : Nat) : Nat → List Bool → Part (List Nat)
  | 0, bits => some ([], bits)
  | n + 1, bits =>
    (readNumber width bits).bind fun (number, bits) =>
      (readNumbers width n bits).map fun (numbers, bits) => (number :: numbers, bits)

theorem length_of_readNumbers {width n : Nat} {bits rest : List Bool} {numbers : List Nat}
    (h : readNumbers width n bits = some (numbers, rest)) : rest.length ≤ bits.length := by
  induction n generalizing bits numbers with
  | zero => simp_all [readNumbers]
  | succ n ih =>
    simp only [readNumbers, Option.bind_eq_some_iff, Option.map_eq_some_iff, Prod.mk.injEq,
      Prod.exists] at h
    obtain ⟨_, _, hn, _, _, hr, -, rfl⟩ := h
    have := length_of_readNumber hn
    have := ih hr
    omega

/-- How often a length may be repeated at least, and how many bits say how often it
is, for the symbols beyond the lengths. -/
def repetition (symbol : Nat) : Nat × Nat :=
  if symbol = 16 then (3, 2) else if symbol = 17 then (3, 3) else (11, 7)

/-- Reads lengths until there are so many; given are those so far, the latest
first.  The first symbol beyond the lengths repeats the latest, the others zero. -/
def readLengths (code : PrefixCode) (total : Nat) (lengths : List Nat) (bits : List Bool) :
    Except Fault (Part (List Nat)) :=
  if total ≤ lengths.length then .ok (some (lengths.reverse, bits))
  else
    match _hf : code.find bits with
    | .short => .ok none
    | .unknown => .error .lengthCode
    | .symbol symbol rest =>
      if symbol < 16 then readLengths code total (symbol :: lengths) rest
      else
        match _hn : readNumber (repetition symbol).2 rest with
        | none => .ok none
        | some (more, rest) =>
          let times := (repetition symbol).1 + more
          match if symbol = 16 then lengths.head? else some 0 with
          | none => .error .lengthRepeat
          | some length =>
            if total < lengths.length + times then .error .lengthRepeat
            else readLengths code total (List.replicate times length ++ lengths) rest
termination_by bits.length
decreasing_by
  · exact PrefixCode.length_of_find _hf
  · have := PrefixCode.length_of_find _hf
    have := length_of_readNumber _hn
    omega

theorem length_of_readLengths {code : PrefixCode} {total : Nat} {lengths numbers : List Nat}
    {bits rest : List Bool} (h : readLengths code total lengths bits = .ok (some (numbers, rest))) :
    rest.length ≤ bits.length := by
  fun_induction readLengths code total lengths bits with
  | case1 => simp_all
  | case4 _ _ _ _ _ hf _ ih =>
    exact Nat.le_of_lt (Nat.lt_of_le_of_lt (ih h) (PrefixCode.length_of_find hf))
  | case8 =>
    rename_i hf _ _ _ hn _ _ _ _ ih
    have := PrefixCode.length_of_find hf
    have := length_of_readNumber hn
    have := ih h
    omega
  | _ => simp at h

/-- The order in which the lengths of the code of lengths are given. -/
def lengthOrder : List Nat :=
  [16, 17, 18, 0, 8, 7, 9, 6, 10, 5, 11, 4, 12, 3, 13, 2, 14, 1, 15]

/-- The code of lengths.  Where it has no symbols every bit stands for zero. -/
def lengthsCode (given : List Nat) : Option PrefixCode :=
  if given.all (· = 0) then some ⟨[2], #[0, 0]⟩
  else
    PrefixCode.ofLengths? false
      ((List.range 19).map fun symbol => ((lengthOrder.zip given).lookup symbol).getD 0)

/-- The symbol that ends a block. -/
def endSymbol : Nat := 256

/-- The codes that a block with so many lengths for bytes and matches brings. -/
def blockCodes (literals : Nat) (lengths : List Nat) : Except Fault BlockCodes :=
  if lengths[endSymbol]? = some 0 then .error .noEnd
  else
    match PrefixCode.ofLengths? true (lengths.take literals),
      PrefixCode.ofLengths? true (lengths.drop literals) with
    | none, _ => .error .literalCode
    | some _, none => .error .distanceCode
    | some literals, some distances => .ok ⟨literals, distances⟩

/-- Reads the codes at the head of a block. -/
def readCodes (bits : List Bool) : Except Fault (Part BlockCodes) :=
  match readNumber 14 bits with
  | none => .ok none
  | some (sizes, bits) =>
    let literals := sizes % 32 + 257
    let distances := sizes / 32 % 32 + 1
    if 286 < literals || 30 < distances then .error .symbolCount
    else
      match readNumbers 3 (sizes / 1024 + 4) bits with
      | none => .ok none
      | some (given, bits) =>
        match lengthsCode given with
        | none => .error .lengthCode
        | some code =>
          match readLengths code (literals + distances) [] bits with
          | .error fault => .error fault
          | .ok none => .ok none
          | .ok (some (lengths, bits)) =>
            match blockCodes literals lengths with
            | .error fault => .error fault
            | .ok codes => .ok (some (codes, bits))

theorem length_of_readCodes {bits rest : List Bool} {codes : BlockCodes}
    (h : readCodes bits = .ok (some (codes, rest))) : rest.length ≤ bits.length := by
  unfold readCodes at h
  split at h
  · exact nomatch h
  · rename_i h1
    have h1 := length_of_readNumber h1
    dsimp only at h
    split at h
    · exact nomatch h
    · split at h
      · exact nomatch h
      · rename_i h2
        have h2 := length_of_readNumbers h2
        split at h
        · exact nomatch h
        · split at h
          · exact nomatch h
          · exact nomatch h
          · rename_i h3
            have h3 := length_of_readLengths h3
            split at h
            · exact nomatch h
            · simp only [Except.ok.injEq, Option.some.injEq, Prod.mk.injEq] at h
              obtain ⟨-, rfl⟩ := h
              omega

/-! ### The whole -/

/-- Reads so many bytes as they are. -/
def readBytes (output : Array UInt8) : Nat → List Bool → Output
  | 0, bits => (output, some bits)
  | n + 1, bits =>
    match readNumber 8 bits with
    | none => (output, none)
    | some (byte, rest) => readBytes (output.push (UInt8.ofNat byte)) n rest

theorem length_of_readBytes {output bytes : Array UInt8} {n : Nat} {bits rest : List Bool}
    (h : readBytes output n bits = (bytes, some rest)) : rest.length ≤ bits.length := by
  induction n generalizing output bits with
  | zero => simp_all [readBytes]
  | succ n ih =>
    unfold readBytes at h
    split at h
    · simp at h
    · rename_i hn
      have := length_of_readNumber hn
      have := ih h
      omega

/-- The bits from the next whole byte on. -/
def aligned (bits : List Bool) : List Bool :=
  bits.drop (bits.length % 8)

/-- Reads a block of bytes as they are: their number is given twice, the second
time with all bits reversed. -/
def readPlain (output : Array UInt8) (bits : List Bool) : Except Fault Output :=
  match readNumbers 16 2 (aligned bits) with
  | some ([size, check], rest) =>
    if size + check = 0xFFFF then .ok (readBytes output size rest) else .error .plainLength
  | _ => .ok (output, none)

/-- Reads a block of a kind. -/
def readBlock (kind : Nat) (output : Array UInt8) (bits : List Bool) : Except Fault Output :=
  match kind with
  | 0 => readPlain output bits
  | 1 =>
    match fixedCodes with
    | some codes => readPieces codes output bits
    | none => .error .literalCode
  | 2 =>
    match readCodes bits with
    | .error fault => .error fault
    | .ok none => .ok (output, none)
    | .ok (some (codes, bits)) => readPieces codes output bits
  | _ => .error .block

theorem length_of_readBlock {kind : Nat} {output bytes : Array UInt8} {bits rest : List Bool}
    (h : readBlock kind output bits = .ok (bytes, some rest)) : rest.length ≤ bits.length := by
  unfold readBlock at h
  split at h
  · unfold readPlain at h
    split at h
    · rename_i hn
      have hn := length_of_readNumbers hn
      split at h
      · have := length_of_readBytes (Except.ok.inj h)
        simp only [aligned, List.length_drop] at hn
        omega
      · exact nomatch h
    · simp at h
  · split at h
    · exact Nat.le_of_lt (length_of_readPieces h)
    · exact nomatch h
  · split at h
    · exact nomatch h
    · simp at h
    · rename_i hc
      have := length_of_readCodes hc
      have := length_of_readPieces h
      omega
  · exact nomatch h

/-- Reads blocks up to the last one. -/
def readBlocks (output : Array UInt8) (bits : List Bool) : Except Fault Output :=
  match _hn : readNumber 3 bits with
  | none => .ok (output, none)
  | some (head, rest) =>
    match _hb : readBlock (head / 2) output rest with
    | .error fault => .error fault
    | .ok (output, none) => .ok (output, none)
    | .ok (output, some rest) =>
      if head % 2 = 1 then .ok (output, some rest) else readBlocks output rest
termination_by bits.length
decreasing_by
  have := length_of_readNumber _hn
  have := length_of_readBlock _hb
  omega

end FormAutomation.Compression
