/-!
# UTF-7

In UTF-7 a text of ASCII stands for itself.  Other characters stand in *runs*, which
begin with a plus sign and hold their units of sixteen bits in base 64.  A run ends
before the first byte that is no digit, and a hyphen there belongs to it.
-/

namespace FormAutomation.Text.Utf7

/-- The value of a digit of base 64. -/
def digit? (byte : UInt8) : Option Nat :=
  let n := byte.toNat
  if 0x41 ≤ n && n ≤ 0x5A then some (n - 0x41)
  else if 0x61 ≤ n && n ≤ 0x7A then some (n - 0x47)
  else if 0x30 ≤ n && n ≤ 0x39 then some (n + 4)
  else if n = 0x2B then some 62
  else if n = 0x2F then some 63
  else none

/-- Where reading stands within a run. -/
structure Run where
  /-- the bits that make no unit yet, as a number -/
  pending : Nat := 0
  /-- how many there are -/
  count : Nat := 0
  /-- the first half of a character, if one was read last -/
  half : Option Nat := none

namespace Run

/-- Whether a run must not end here: a digit too many, or bits that are not zero. -/
def isBroken (run : Run) : Bool :=
  6 ≤ run.count || (run.count != 0 && run.pending != 0)

/-- What a unit completes.  Half a character without the other half stands for the
replacement character. -/
def complete (run : Run) (unit : Nat) : List Char × Run :=
  let alone : List Char × Run :=
    if 0xD800 ≤ unit && unit ≤ 0xDBFF then ([], { run with half := some unit })
    else if 0xDC00 ≤ unit && unit ≤ 0xDFFF then (['\uFFFD'], { run with half := none })
    else ([Char.ofNat unit], { run with half := none })
  match run.half with
  | none => alone
  | some high =>
    if 0xDC00 ≤ unit && unit ≤ 0xDFFF then
      ([Char.ofNat (0x10000 + 0x400 * (high - 0xD800) + (unit - 0xDC00))], { run with half := none })
    else ('\uFFFD' :: alone.1, alone.2)

/-- The bits of a digit added: what they complete, and where reading stands then. -/
def add (run : Run) (digit : Nat) : List Char × Run :=
  let pending := 64 * run.pending + digit
  let count := run.count + 6
  if count < 16 then ([], { run with pending, count })
  else
    let low := Nat.pow 2 (count - 16)
    complete { run with pending := pending % low, count := count - 16 } (pending / low)

end Run

/-- What a byte outside a run stands for, how many bytes after it are taken with it, and
the run that it opens. -/
def plain (byte : UInt8) (rest : List UInt8) : List (Option Char) × Nat × Option Run :=
  if byte = 0x2B then
    match rest with
    | 0x2D :: _ => ([some '+'], 1, none)
    | next :: _ => if (digit? next).isSome then ([], 0, some {}) else ([none], 1, none)
    | [] => ([], 0, some {})
  else if byte < 0x80 then ([some (Char.ofNat byte.toNat)], 0, none)
  else ([none], 0, none)

/-- The same for a byte anywhere. -/
def step (run? : Option Run) (byte : UInt8) (rest : List UInt8) :
    List (Option Char) × Nat × Option Run :=
  match run? with
  | none => plain byte rest
  | some run =>
    match digit? byte with
    | some digit =>
      let (cs, run) := run.add digit
      (cs.map some, 0, some run)
    | none =>
      if run.isBroken then ([none], 0, none)
      else
        let lost := if run.half.isSome && byte < 0x80 then [some '\uFFFD'] else []
        let (items, more, run?) := if byte = 0x2D then ([], 0, none) else plain byte rest
        (lost ++ items, more, run?)

/-- The characters and flaws of bytes. -/
def read : Option Run → List UInt8 → List (Option Char)
  | none, [] => []
  | some run, [] => if run.isBroken || run.half.isSome then [none] else []
  | run?, byte :: rest =>
    match step run? byte rest with
    | (items, more, run?) => items ++ read run? (rest.drop more)
termination_by _ bytes => bytes.length
decreasing_by simp only [List.length_drop, List.length_cons]; omega

end FormAutomation.Text.Utf7
