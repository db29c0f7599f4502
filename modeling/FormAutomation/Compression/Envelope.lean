import FormAutomation.Compression.Checksum
import FormAutomation.Compression.Inflate

/-!
# Envelopes of compressed data

Compressed data travels between a header, which says how it was made, and a
checksum of what it comes to.  There are two such envelopes, a short one and one
for files, which also has room for a name and a comment and confirms the length.

Each part is judged when it is there as a whole; where the data ends early there
is nothing to judge, and what could be read stands.
-/

namespace FormAutomation.Compression

/-- The number of some bytes, the lowest first. -/
def numberOf (bytes : List UInt8) : Nat :=
  bytes.foldr (fun byte n => 256 * n + byte.toNat) 0

/-- What follows so many bytes, if they are there. -/
def after? (n : Nat) (bytes : List UInt8) : Option (List UInt8) :=
  if bytes.length < n then none else some (bytes.drop n)

/-- What follows the first zero. -/
def afterZero? (bytes : List UInt8) : Option (List UInt8) :=
  match bytes.dropWhile (· ≠ 0) with
  | [] => none
  | _ :: rest => some rest

/-- The bytes of some compressed data, and the bytes that follow it, if it does not
end early. -/
def expand (data : List UInt8) : Except Fault (List UInt8 × Option (List UInt8)) := do
  let (output, rest) ← readBlocks #[] (bitsOf data)
  return (output.toList, rest.map fun bits => data.drop (data.length - bits.length / 8))

/-- The bytes of data in no envelope. -/
def inflate (data : List UInt8) : Except Fault (List UInt8) :=
  (expand data).map (·.1)

/-! ## The short envelope -/

/-- What follows the header of the short envelope, if that is there as a whole. -/
def afterShortHeader (data : List UInt8) : Except Fault (Option (List UInt8)) :=
  match data with
  | a :: b :: rest =>
    if (256 * a.toNat + b.toNat) % 31 ≠ 0 then .error .header
    else if a.toNat % 16 ≠ 8 then .error .method
    else if 7 < a.toNat / 16 then .error .window
    else if b.toNat.testBit 5 then
      if rest.length < 4 then .ok none else .error .dictionary
    else .ok (some rest)
  | _ => .ok none

/-- The bytes of data in the short envelope. -/
def openShort (data : List UInt8) : Except Fault (List UInt8) := do
  match ← afterShortHeader data with
  | none => return []
  | some data =>
    let (bytes, rest) ← expand data
    let check := (rest.getD []).take 4
    if check.length = 4 ∧ numberOf check.reverse ≠ adler32 bytes then throw .checksum
    return bytes

/-! ## The envelope of files -/

/-- What follows the parts of the header that a file may have or not, the checksum
of the header aside. -/
def afterFileParts (marks : Nat) (data : List UInt8) : Option (List UInt8) := do
  let data ← after? 6 data
  let data ←
    if marks.testBit 2 then (after? 2 data).bind (after? (numberOf (data.take 2))) else some data
  let data ← if marks.testBit 3 then afterZero? data else some data
  if marks.testBit 4 then afterZero? data else some data

/-- What follows the header of a file, if that is there as a whole. -/
def afterFileHeader (data : List UInt8) : Except Fault (Option (List UInt8)) :=
  match data with
  | a :: b :: rest =>
    if numberOf [a, b] ≠ 0x8B1F then .error .header
    else
      match rest with
      | method :: marks :: rest =>
        if method ≠ 8 then .error .method
        else if 0x20 ≤ marks then .error .marks
        else
          match afterFileParts marks.toNat rest with
          | none => .ok none
          | some rest =>
            if marks.toNat.testBit 1 then
              match rest with
              | c :: d :: after =>
                let header := data.take (data.length - rest.length)
                if numberOf [c, d] = crc32 header % 0x10000 then .ok (some after)
                else .error .headerChecksum
              | _ => .ok none
            else .ok (some rest)
      | _ => .ok none
  | _ => .ok none

/-- The bytes of a file. -/
def openFile (data : List UInt8) : Except Fault (List UInt8) := do
  match ← afterFileHeader data with
  | none => return []
  | some data =>
    let (bytes, rest) ← expand data
    let check := (rest.getD []).take 4
    let length := ((rest.getD []).drop 4).take 4
    if check.length = 4 ∧ numberOf check ≠ crc32 bytes then throw .checksum
    if length.length = 4 ∧ numberOf length ≠ bytes.length % 0x100000000 then throw .length
    return bytes

end FormAutomation.Compression
