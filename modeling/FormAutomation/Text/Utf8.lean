/-!
# UTF-8

Texts are written as bytes, one to four for a character.  Reading goes from the
left; where the bytes are no character, the longest part that could have begun
one is a *flaw*.  A strict reader stops at the first flaw and says why; a
lenient one puts the replacement character in its place and goes on.
-/

namespace FormAutomation.Text.Utf8

/-- The bytes of a text. -/
def encode (cs : List Char) : List UInt8 :=
  cs.flatMap String.utf8EncodeChar

/-- Why bytes are no character. -/
inductive Flaw where
  /-- no character begins with this byte -/
  | start
  /-- a byte does not go on with the character -/
  | continuation
  /-- the bytes end inside a character -/
  | ending
  deriving DecidableEq

/-- What is said of a flaw. -/
def Flaw.description : Flaw → String
  | .start => "invalid start byte"
  | .continuation => "invalid continuation byte"
  | .ending => "unexpected end of data"

/-- What stands at the head of bytes. -/
inductive Head where
  /-- a character of this many bytes -/
  | char (c : Char) (width : Nat)
  /-- a flaw of this many bytes -/
  | flaw (why : Flaw) (width : Nat)

/-- How a character begins: the bits of its first byte, the bytes still to come,
and the range of the next one. -/
structure Lead where
  /-- what the first byte adds to the code point -/
  bits : Nat
  /-- how many bytes follow -/
  more : Nat
  /-- the least byte that may come next -/
  least : Nat
  /-- the greatest byte that may come next -/
  greatest : Nat

/-- How a byte begins a character of more than one byte. -/
def lead? (b : Nat) : Option Lead :=
  if 0xC2 ≤ b ∧ b ≤ 0xDF then some ⟨b - 0xC0, 1, 0x80, 0xBF⟩
  else if b = 0xE0 then some ⟨0, 2, 0xA0, 0xBF⟩
  else if b = 0xED then some ⟨0xD, 2, 0x80, 0x9F⟩
  else if 0xE1 ≤ b ∧ b ≤ 0xEF then some ⟨b - 0xE0, 2, 0x80, 0xBF⟩
  else if b = 0xF0 then some ⟨0, 3, 0x90, 0xBF⟩
  else if 0xF1 ≤ b ∧ b ≤ 0xF3 then some ⟨b - 0xF0, 3, 0x80, 0xBF⟩
  else if b = 0xF4 then some ⟨4, 3, 0x80, 0x8F⟩
  else none

/-- The rest of a character: its bits so far, the bytes still to come, the range
of the next one, and how many were read. -/
def finish (bits : Nat) : Nat → Nat → Nat → Nat → List UInt8 → Head
  | 0, _, _, width, _ => .char (Char.ofNat bits) width
  | _ + 1, _, _, width, [] => .flaw .ending width
  | more + 1, least, greatest, width, b :: rest =>
    if least ≤ b.toNat ∧ b.toNat ≤ greatest then
      finish (bits * 64 + (b.toNat - 0x80)) more 0x80 0xBF (width + 1) rest
    else .flaw .continuation width

/-- What stands at the head, after its first byte. -/
def head (b : UInt8) (rest : List UInt8) : Head :=
  if b.toNat < 0x80 then .char (Char.ofNat b.toNat) 1
  else
    match lead? b.toNat with
    | some lead => finish lead.bits lead.more lead.least lead.greatest 1 rest
    | none => .flaw .start 1

/-- The first flaw of some bytes: why, where it begins and where it ends. -/
structure Fault where
  /-- what is wrong -/
  why : Flaw
  /-- how many bytes precede it -/
  offset : Nat
  /-- how many bytes it takes -/
  width : Nat
  /-- its first byte -/
  byte : Nat
  deriving DecidableEq

/-- The text of bytes, of which the first `skip` belong to a character already
read and `offset` precede them. -/
def decodeFrom : Nat → Nat → List UInt8 → Except Fault (List Char)
  | _, _, [] => .ok []
  | skip + 1, offset, _ :: rest => decodeFrom skip (offset + 1) rest
  | 0, offset, b :: rest =>
    match head b rest with
    | .char c width => do
      let cs ← decodeFrom (width - 1) (offset + 1) rest
      .ok (c :: cs)
    | .flaw why width => .error ⟨why, offset, width, b.toNat⟩

/-- The text of bytes that have no flaw. -/
def decode (bytes : List UInt8) : Except Fault (List Char) :=
  decodeFrom 0 0 bytes

/-- The text of bytes with a replacement character for every flaw. -/
def decodeLossyFrom : Nat → List UInt8 → List Char
  | _, [] => []
  | skip + 1, _ :: rest => decodeLossyFrom skip rest
  | 0, b :: rest =>
    match head b rest with
    | .char c width => c :: decodeLossyFrom (width - 1) rest
    | .flaw _ width => '\uFFFD' :: decodeLossyFrom (width - 1) rest

@[inherit_doc decodeLossyFrom]
def decodeLossy (bytes : List UInt8) : List Char :=
  decodeLossyFrom 0 bytes

end FormAutomation.Text.Utf8
