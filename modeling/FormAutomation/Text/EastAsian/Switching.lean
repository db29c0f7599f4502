import FormAutomation.Text.ByteSet
import FormAutomation.Text.EastAsian.Gb2312
import FormAutomation.Text.EastAsian.Japanese
import FormAutomation.Text.EastAsian.Ks1001

/-!
# Sets that switch between others

In seven bits one set has to do at a time.  Sequences that begin with the escape
character put a set in one of three places; plain bytes are read in the set of the
first place, or of the second one while shifted there, and single characters are
taken from the third.
-/

namespace FormAutomation.Text.EastAsian

/-- A set that can be put in a place. -/
inductive Part where
  /-- ASCII, which is always at hand -/
  | ascii
  /-- the upper half of the set for Western Europe -/
  | western
  /-- the upper half of the set for Greek -/
  | greek
  /-- ASCII with two signs replaced as in Japan -/
  | roman
  /-- narrow syllables -/
  | narrow
  /-- JIS X 0208, in either issue -/
  | jis208
  /-- JIS X 0212 -/
  | jis212
  /-- the first plane of JIS X 0213 -/
  | firstPlane (sheets : Sheets)
  /-- the second plane -/
  | secondPlane
  /-- GB 2312 -/
  | gb2312
  /-- KS X 1001 -/
  | ks1001
  deriving DecidableEq

namespace Part

/-- The upper half of the set for Greek; a blank stands for a hole. -/
def greekUpper : String :=
  upperControls
    ++ "\u00A0‘’£  ¦§¨© «¬\u00AD ―°±²³΄΅Ά·ΈΉΊ»Ό½ΎΏΐΑΒΓΔΕΖΗΘΙΚΛΜΝΞΟΠΡ ΣΤΥΦΧΨΩΪΫάέήίΰαβγδεζηθικλμνξοπρςστυφχψωϊϋόύώ"

/-- How many bytes a character takes. -/
def width : Part → Nat
  | .ascii | .western | .greek | .roman | .narrow => 1
  | _ => 2

/-- The characters of bytes, of which the second one may be left out.  The upper halves
are read from the third place only. -/
def characters? (part : Part) (a b : Nat) : Option (List Char) :=
  match part with
  | .ascii => some [Char.ofNat a]
  | .western | .greek => none
  | .roman => some [if a = 0x5C then '¥' else if a = 0x7E then '‾' else Char.ofNat a]
  | .narrow => if 0x21 ≤ a && a ≤ 0x5F then some [Text.EastAsian.narrow (a + 0x80)] else none
  | .jis208 => findJis208 a b
  | .jis212 => (Text.EastAsian.jis212.inSeven? a b).map ([·])
  | .firstPlane sheets => (Text.EastAsian.firstPlane sheets a b).map (·.map narrowTilde)
  | .secondPlane => Text.EastAsian.secondPlane .issue2004 a b
  | .gb2312 => (Text.EastAsian.gb2312.inSeven? a b).map ([·])
  | .ks1001 => (Text.EastAsian.ks1001.inSeven? a b).map ([·])

/-- The character of the third place for a byte. -/
def single? (part : Part) (byte : Nat) : Option Char :=
  match part with
  | .ascii => if byte < 0x80 then some (Char.ofNat byte) else none
  | .western => if byte < 0x80 then some (Char.ofNat (byte + 0x80)) else none
  | .greek =>
    if 0x80 ≤ byte then some (Char.ofNat (byte - 0x80))
    else greekUpper.toList[byte]?.filter (· ≠ ' ')
  | _ => none

end Part

/-- What a family of sequences allows. -/
structure Repertoire where
  /-- the sets that can be put in a place, by the last character of the sequence and
  whether their characters take two bytes -/
  parts : List ((Char × Bool) × Part)
  /-- whether one can shift to the second place -/
  hasShift : Bool := false
  /-- whether there is a third place -/
  hasThird : Bool := false
  /-- whether the newer issue of JIS X 0208 is announced beforehand -/
  hasAnnouncement : Bool := true

/-- Where reading stands. -/
structure Switches where
  /-- the set in the first place -/
  first : Part := .ascii
  /-- the set in the second place -/
  second : Part := .ascii
  /-- the set in the third place -/
  third : Part := .ascii
  /-- whether plain bytes are read in the second place -/
  isShifted : Bool := false
  /-- whether a sequence of an unknown kind is passed over -/
  isForeign : Bool := false

namespace Repertoire

/-- The set that a sequence names. -/
def part? (repertoire : Repertoire) (final : Char) (isDouble : Bool) : Option Part :=
  if final = 'B' && !isDouble then some .ascii else repertoire.parts.lookup (final, isDouble)

/-- Whether a byte ends a sequence. -/
def isFinal (byte : UInt8) : Bool :=
  0x41 ≤ byte && byte ≤ 0x5A || byte == 0x40

/-- How many bytes a sequence may have. -/
def longest : Nat := 16

/-- The length of a sequence of which `before` bytes were passed; nothing where it is
not all there, and zero where it is too long.  An announcement within it does not end
it. -/
def sequenceLength? (repertoire : Repertoire) (before : Nat) (bytes : List UInt8) : Option Nat :=
  if longest ≤ before then some 0
  else
    match bytes with
    | [] => none
    | byte :: rest =>
      if isFinal byte then some (before + 1)
      else if repertoire.hasAnnouncement && byte == 0x26 && rest.head? == some 0x40 then
        repertoire.sequenceLength? (before + 3) (rest.drop 2)
      else repertoire.sequenceLength? (before + 1) rest
termination_by bytes.length
decreasing_by all_goals simp only [List.length_drop, List.length_cons]; omega

/-- What a sequence changes, given what follows the escape character; an announcement
takes two characters before another sequence. -/
def switched? (repertoire : Repertoire) (state : Switches) (bytes : List Char) :
    Option Switches :=
  match bytes with
  | ['$', final] => (repertoire.part? final true).map fun part => { state with first := part }
  | ['(', final] => (repertoire.part? final false).map fun part => { state with first := part }
  | [')', final] => (repertoire.part? final false).map fun part => { state with second := part }
  | ['.', final] =>
    if repertoire.hasThird then
      (repertoire.part? final false).map fun part => { state with third := part }
    else none
  | ['$', '(', final] => (repertoire.part? final true).map fun part => { state with first := part }
  | ['$', ')', final] => (repertoire.part? final true).map fun part => { state with second := part }
  | [_, _, '\x1b', '$', 'B'] =>
    if repertoire.hasAnnouncement then
      (repertoire.part? 'B' true).map fun part => { state with first := part }
    else none
  | _ => none

/-- What stands at the head of bytes after the escape character. -/
def escapeHead (repertoire : Repertoire) (state : Switches) (bytes : List UInt8) :
    Head Switches :=
  match bytes with
  | [] => .cut
  | byte :: rest =>
    if [0x24, 0x26, 0x28, 0x29, 0x2E].contains byte then
      match repertoire.sequenceLength? 1 bytes with
      | none => .cut
      | some length =>
        let named := (bytes.take (length - 1)).map fun byte => Char.ofNat byte.toNat
        match repertoire.switched? state named with
        | some state => .characters [] (length - 1) state
        | none => .flaw (length - 1)
    else if repertoire.hasThird && byte == 0x4E then
      match rest with
      | [] => .cut
      | byte :: _ =>
        match state.third.single? byte.toNat with
        | some c => .characters [c] 2 state
        | none => .flaw 2
    else .characters ['\x1b'] 0 { state with isForeign := true }

/-- What stands at the head of bytes. -/
def head (repertoire : Repertoire) (state : Switches) (byte : UInt8) (bytes : List UInt8) :
    Head Switches :=
  let itself := [Char.ofNat byte.toNat]
  if state.isForeign then .characters itself 0 { state with isForeign := !isFinal byte }
  else if byte = 0x1B then repertoire.escapeHead state bytes
  else if byte = 0x0E && repertoire.hasShift then .characters [] 0 { state with isShifted := true }
  else if byte = 0x0F && repertoire.hasShift then .characters [] 0 { state with isShifted := false }
  else if byte = 0x0A then .characters itself 0 { state with isShifted := false }
  else if byte < 0x20 then .characters itself 0 state
  else if 0x80 ≤ byte then .flaw 0
  else
    let part := if state.isShifted then state.second else state.first
    if bytes.length + 1 < part.width then .cut
    else
      match part.characters? byte.toNat ((bytes.head?.map UInt8.toNat).getD 0) with
      | some cs => .characters cs (part.width - 1) state
      | none => .flaw (part.width - 1)

/-! ## Families -/

/-- The sets of the plain family for Japanese. -/
def plainParts : List ((Char × Bool) × Part) :=
  [(('B', true), .jis208), (('J', false), .roman), (('@', true), .jis208)]

/-- The sets of families with the newer planes. -/
def planeParts (final : Char) (sheets : Sheets) : List ((Char × Bool) × Part) :=
  [((final, true), .firstPlane sheets), (('B', true), .jis208), (('P', true), .secondPlane)]

/-- Japanese. -/
def japanese : Repertoire where
  parts := plainParts

/-- Japanese with the rarer words. -/
def japaneseMore : Repertoire where
  parts := plainParts ++ [(('D', true), .jis212)]

/-- Japanese among other languages. -/
def manyLanguages : Repertoire where
  parts := plainParts ++ [(('D', true), .jis212), (('C', true), .ks1001), (('A', true), .gb2312),
    (('A', false), .western), (('F', false), .greek)]
  hasThird := true

/-- Japanese with narrow syllables. -/
def japaneseNarrow : Repertoire where
  parts := plainParts ++ [(('D', true), .jis212), (('I', false), .narrow)]

/-- Japanese on the planes of the year 2000. -/
def japanese2000 : Repertoire where
  parts := planeParts 'O' .issue2000

/-- Japanese on the planes of the year 2004. -/
def japanese2004 : Repertoire where
  parts := planeParts 'Q' .issue2004

/-- Korean. -/
def korean : Repertoire where
  parts := [(('C', true), .ks1001)]
  hasShift := true
  hasAnnouncement := false

end Repertoire

end FormAutomation.Text.EastAsian
