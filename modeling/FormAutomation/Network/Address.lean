import FormAutomation.Text.Case
import FormAutomation.Text.Split

/-!
# Network addresses

An address is a number of 32 or of 128 bits.  A number can be written in several
ways — letter case, groups of zeros left out, the last 32 bits as a dotted quad,
a scope after a percent sign — but only one of them is its canonical text.

Whether an address is *private* depends on the number alone: it lies in one of
the blocks set aside for private use and in none of the blocks excepted from
them.  An address of 128 bits that stands for one of 32 follows that one.
-/

namespace FormAutomation.Network

/-- A network address. -/
inductive Address where
  /-- an address of 32 bits -/
  | v4 (bits : Nat)
  /-- an address of 128 bits -/
  | v6 (bits : Nat)
  deriving DecidableEq

namespace Address

/-! ## Reading -/

/-- A part of a dotted quad: a number below 256 without zeros in front. -/
def octet? (cs : List Char) : Option Nat :=
  if cs.isEmpty || !cs.all Char.isDigit || 3 < cs.length then none
  else if 1 < cs.length && cs.head? == some '0' then none
  else
    let n := cs.foldl (fun n c => 10 * n + (c.toNat - 48)) 0
    if n < 256 then some n else none

/-- The number of a dotted quad. -/
def quad? (cs : List Char) : Option Nat :=
  match (Text.splitOn '.' cs).map octet? with
  | [some a, some b, some c, some d] => some (((a * 256 + b) * 256 + c) * 256 + d)
  | _ => none

/-- The value of a hexadecimal digit. -/
def hexValue? (c : Char) : Option Nat :=
  if c.isDigit then some (c.toNat - 48)
  else if 'a' ≤ c ∧ c ≤ 'f' then some (c.toNat - 87)
  else if 'A' ≤ c ∧ c ≤ 'F' then some (c.toNat - 55)
  else none

/-- A group of up to four hexadecimal digits. -/
def group? (cs : List Char) : Option Nat :=
  if cs.isEmpty || 4 < cs.length then none
  else cs.foldlM (fun n c => (hexValue? c).map (16 * n + ·)) 0

/-- The groups between colons; a dotted quad at the end makes two. -/
def groups? (parts : List (List Char)) : Option (List Nat) :=
  match parts with
  | [] => some []
  | [last] =>
    if last.contains '.' then (quad? last).map fun n => [n / 65536, n % 65536]
    else (group? last).map ([·])
  | part :: rest => do
    let n ← group? part
    let ns ← groups? rest
    some (n :: ns)

/-- The number of eight groups. -/
def ofGroups (groups : List Nat) : Nat :=
  groups.foldl (fun n group => 65536 * n + group) 0

/-- The parts before and after the only empty part that stands for groups of
zeros, if there is one; `none` if there are several.  At the start and at the
end of a text that part is written as two empty ones. -/
def cut? (parts : List (List Char)) : Option (Option (List (List Char) × List (List Char))) :=
  match parts with
  | [] :: [] :: rest =>
    if rest = [[]] then some (some ([], []))
    else if rest.any List.isEmpty then none
    else some (some ([], rest))
  | _ =>
    let before := parts.takeWhile (!·.isEmpty)
    match parts.drop before.length with
    | [] => some none
    | _ :: after =>
      if before.isEmpty then none
      else if after = [[]] then some (some (before, []))
      else if after.isEmpty || after.any List.isEmpty then none
      else some (some (before, after))

/-- The number of an address of 128 bits, without its scope. -/
def long? (cs : List Char) : Option Nat := do
  let parts := Text.splitOn ':' cs
  if parts.length < 3 then none
  match ← cut? parts with
  | none =>
    let groups ← groups? parts
    if groups.length = 8 then some (ofGroups groups) else none
  | some (before, after) =>
    if before.any (·.contains '.') then none
    else
      let high ← groups? before
      let low ← groups? after
      if high.length + low.length < 8 then
        some (ofGroups (high ++ List.replicate (8 - high.length - low.length) 0 ++ low))
      else none

/-- The text without a scope; `none` if the scope is empty or has a percent sign
of its own. -/
def withoutScope? (cs : List Char) : Option (List Char) :=
  let address := cs.takeWhile (· ≠ '%')
  match cs.drop address.length with
  | [] => some address
  | _ :: scope => if scope.isEmpty || scope.contains '%' then none else some address

/-- The address that a text writes. -/
def parse? (text : String) : Option Address :=
  let cs := text.toList
  match quad? cs with
  | some bits => some (.v4 bits)
  | none =>
    if cs.contains '/' then none
    else ((withoutScope? cs).bind long?).map .v6

/-! ## Writing -/

/-- A number in base ten. -/
def decimal (n : Nat) : List Char :=
  Nat.toDigits 10 n

/-- The dotted quad of a number. -/
def quadText (bits : Nat) : List Char :=
  decimal (bits / 0x1000000 % 256) ++ '.' :: decimal (bits / 0x10000 % 256)
    ++ '.' :: decimal (bits / 0x100 % 256) ++ '.' :: decimal (bits % 256)

/-- The eight groups of a number. -/
def groupsOf (bits : Nat) : List Nat :=
  (List.range 8).map fun i => bits / Nat.pow 65536 (7 - i) % 65536

/-- How many zeros a list starts with. -/
def leadingZeros (groups : List Nat) : Nat :=
  (groups.takeWhile (· == 0)).length

/-- The longest run of zeros among groups, the first of several: where it starts
and how long it is. -/
def longestRun (groups : List Nat) : Nat × Nat :=
  (List.range groups.length).foldl
    (fun best i =>
      let length := leadingZeros (groups.drop i)
      if best.2 < length then (i, length) else best)
    (0, 0)

/-- Groups in base sixteen with colons between them. -/
def groupsText (groups : List Nat) : List Char :=
  [':'].intercalate (groups.map (Nat.toDigits 16))

/-- The canonical text of a number of 128 bits: the longest run of at least two
zeros is left out.  When the first six groups are that run, or the first five
followed by ones, the rest is a dotted quad. -/
def longText (bits : Nat) : List Char :=
  let groups := groupsOf bits
  let (start, length) := longestRun groups
  if length < 2 then groupsText groups
  else if start = 0 ∧ length = 6 then ':' :: ':' :: quadText bits
  else if start = 0 ∧ length = 5 ∧ groups[5]? = some 0xFFFF then
    "::ffff:".toList ++ quadText bits
  else
    groupsText (groups.take start) ++ ':' :: ':' :: groupsText (groups.drop (start + length))

/-- The canonical text of an address. -/
def toText : Address → String
  | .v4 bits => String.ofList (quadText bits)
  | .v6 bits => String.ofList (longText bits)

/-! ## Private addresses -/

/-- Addresses that agree in their first bits. -/
structure Block where
  /-- one of them -/
  base : Nat
  /-- in how many bits they agree -/
  length : Nat

/-- Whether a number of some width lies in a block. -/
def Block.contains (width : Nat) (block : Block) (bits : Nat) : Bool :=
  let size := Nat.pow 2 (width - block.length)
  bits / size == block.base / size

/-- The number of a dotted quad. -/
def ofQuad (a b c d : Nat) : Nat :=
  ((a * 256 + b) * 256 + c) * 256 + d

/-- The blocks of 32 bits that are private. -/
def privateQuads : List Block :=
  [⟨ofQuad 0 0 0 0, 8⟩, ⟨ofQuad 10 0 0 0, 8⟩, ⟨ofQuad 127 0 0 0, 8⟩, ⟨ofQuad 169 254 0 0, 16⟩,
   ⟨ofQuad 172 16 0 0, 12⟩, ⟨ofQuad 192 0 0 0, 24⟩, ⟨ofQuad 192 0 2 0, 24⟩,
   ⟨ofQuad 192 168 0 0, 16⟩, ⟨ofQuad 198 18 0 0, 15⟩, ⟨ofQuad 198 51 100 0, 24⟩,
   ⟨ofQuad 203 0 113 0, 24⟩, ⟨ofQuad 240 0 0 0, 4⟩]

/-- The blocks of 32 bits that are excepted. -/
def exceptedQuads : List Block :=
  [⟨ofQuad 192 0 0 9, 32⟩, ⟨ofQuad 192 0 0 10, 32⟩]

/-- The blocks of 128 bits that are private. -/
def privateLong : List Block :=
  [⟨1, 128⟩, ⟨0, 128⟩, ⟨ofGroups [0x64, 0xFF9B, 1, 0, 0, 0, 0, 0], 48⟩,
   ⟨ofGroups [0x100, 0, 0, 0, 0, 0, 0, 0], 64⟩, ⟨ofGroups [0x2001, 0, 0, 0, 0, 0, 0, 0], 23⟩,
   ⟨ofGroups [0x2001, 0xDB8, 0, 0, 0, 0, 0, 0], 32⟩, ⟨ofGroups [0x2002, 0, 0, 0, 0, 0, 0, 0], 16⟩,
   ⟨ofGroups [0xFC00, 0, 0, 0, 0, 0, 0, 0], 7⟩, ⟨ofGroups [0xFE80, 0, 0, 0, 0, 0, 0, 0], 10⟩]

/-- The blocks of 128 bits that are excepted. -/
def exceptedLong : List Block :=
  [⟨ofGroups [0x2001, 1, 0, 0, 0, 0, 0, 1], 128⟩, ⟨ofGroups [0x2001, 1, 0, 0, 0, 0, 0, 2], 128⟩,
   ⟨ofGroups [0x2001, 3, 0, 0, 0, 0, 0, 0], 32⟩, ⟨ofGroups [0x2001, 4, 0x112, 0, 0, 0, 0, 0], 48⟩,
   ⟨ofGroups [0x2001, 0x20, 0, 0, 0, 0, 0, 0], 28⟩,
   ⟨ofGroups [0x2001, 0x30, 0, 0, 0, 0, 0, 0], 28⟩]

/-- Whether a number lies in one of some blocks and in none of some others. -/
def isInside (width : Nat) (blocks excepted : List Block) (bits : Nat) : Bool :=
  blocks.any (·.contains width bits) && !excepted.any (·.contains width bits)

/-- The number of 32 bits that one of 128 bits stands for. -/
def mapped? (bits : Nat) : Option Nat :=
  if bits / 0x100000000 = 0xFFFF then some (bits % 0x100000000) else none

/-- Whether an address is for private use. -/
def isPrivate : Address → Bool
  | .v4 bits => isInside 32 privateQuads exceptedQuads bits
  | .v6 bits =>
    match mapped? bits with
    | some quad => isInside 32 privateQuads exceptedQuads quad
    | none => isInside 128 privateLong exceptedLong bits

end Address

/-! ## Hosts -/

/-- Whether a host is written as an address. -/
def isLiteral (host : String) : Bool :=
  (Address.parse? host).isSome

/-- The names and addresses of the own machine. -/
def ownNames : List String :=
  ["localhost", "localhost.localdomain", "0.0.0.0", "::1"]

/-- Whether the character is a bracket around an address. -/
def isBracket (c : Char) : Bool :=
  c == '[' || c == ']'

/-- A host without brackets around it. -/
def withoutBrackets (host : String) : String :=
  let cs := host.toList.dropWhile isBracket
  String.ofList (cs.reverse.dropWhile isBracket).reverse

/-- Whether a host is internal: a name of the own machine, or an address for
private use. -/
def isInternal (host : String) : Bool :=
  let host := Text.lower (withoutBrackets host)
  ownNames.contains host
    || match Address.parse? host with
      | some address => address.isPrivate
      | none => false

end FormAutomation.Network
