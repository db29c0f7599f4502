/-!
# Reading bytes character by character

A set of characters of several bytes says what stands at the head of bytes: some
characters, a flaw, or the beginning of a character whose bytes are not all there.
Some sets carry a state from character to character.
-/

namespace FormAutomation.Text.EastAsian

/-- What stands at the head of bytes; `more` counts the bytes beyond the first. -/
inductive Head (σ : Type) where
  /-- characters, or none where only the state changes -/
  | characters (cs : List Char) (more : Nat) (state : σ)
  /-- no character -/
  | flaw (more : Nat)
  /-- a character that breaks off -/
  | cut

/-- What was read of bytes. -/
structure Reading where
  /-- the characters and flaws in order -/
  items : List (Option Char)
  /-- the bytes of a character that breaks off at the end, which is a flaw too -/
  unread : Nat := 0

namespace Reading

/-- Something read before the rest. -/
def after (before : List (Option Char)) (rest : Reading) : Reading :=
  { rest with items := before ++ rest.items }

variable {σ : Type}

/-- What is read of bytes by looking at their head again and again. -/
def ofHeads (head : σ → UInt8 → List UInt8 → Head σ) : σ → List UInt8 → Reading
  | _, [] => { items := [] }
  | state, byte :: bytes =>
    match head state byte bytes with
    | .characters cs more state => (ofHeads head state (bytes.drop more)).after (cs.map some)
    | .flaw more => (ofHeads head state (bytes.drop more)).after [none]
    | .cut => { items := [none], unread := bytes.length + 1 }
termination_by _ bytes => bytes.length
decreasing_by all_goals (simp only [List.length_drop, List.length_cons]; omega)

end Reading

/-- The head of bytes in a set of which every character takes one byte below `0x80`,
or two from there on. -/
def pairHead (find? : Nat → Nat → Option (List Char)) (_state : Unit) (byte : UInt8)
    (bytes : List UInt8) : Head Unit :=
  if byte < 0x80 then .characters [Char.ofNat byte.toNat] 0 ()
  else
    match bytes with
    | [] => .cut
    | second :: _ =>
      match find? byte.toNat second.toNat with
      | some cs => .characters cs 1 ()
      | none => .flaw 0

end FormAutomation.Text.EastAsian
