import FormAutomation.Text.Digit
import FormAutomation.Text.Split
import FormAutomation.Value.Basic

/-!
# Paths into values

A path is a row of steps, written with points between them.  A step is the name
of an object's entry or the index of a list's item (`items`, `0`), or both at
once (`items[0]`, `[0]`).  What a path does not lead to is null, and a path that
leads on from null stays there, so a path is followed one step after the other
without looking ahead.
-/

namespace FormAutomation

/-- One step of a path. -/
inductive Segment where
  /-- a name, or the digits of an index -/
  | named (name : String)
  /-- an index in brackets, after a name unless that is empty -/
  | indexed (name : String) (index : Nat)
  deriving DecidableEq

/-- The steps from a value to one inside it. -/
abbrev Path := List Segment

namespace Segment

/-- Whether the character is a bracket. -/
def isBracket (c : Char) : Bool :=
  c == '[' || c == ']'

/-- The name and index of a written step that ends in an index.  The closing
bracket is the last character, or only a line break follows it. -/
def indexed? (cs : List Char) : Option (List Char × Nat) :=
  match cs.dropWhile (!isBracket ·) with
  | '[' :: inside =>
    let digits := inside.takeWhile Text.isDecimalDigit
    match inside.dropWhile Text.isDecimalDigit with
    | ']' :: after =>
      if digits.isEmpty then none
      else if after = [] ∨ after = ['\n'] then
        some (cs.takeWhile (!isBracket ·), Text.digitsValue digits)
      else none
    | _ => none
  | _ => none

/-- A written step. -/
def ofChars (cs : List Char) : Segment :=
  match indexed? cs with
  | some (name, index) => .indexed (String.ofList name) index
  | none => .named (String.ofList cs)

end Segment

/-- A written path; nothing and a lone dollar sign lead nowhere else. -/
def Path.ofText (text : String) : Path :=
  if text = "" ∨ text = "$" then []
  else (Text.splitOn '.' text.toList).map Segment.ofChars

namespace Value

/-- The entry of an object under a name, or the item of a list under the digits
of its index. -/
def child (v : Value) (name : String) : Value :=
  match v with
  | .list _ =>
    if Text.isDecimal name.toList then v.item (Text.digitsValue name.toList) else .null
  | _ => v.field name

/-- Where one step leads. -/
def follow (v : Value) : Segment → Value
  | .named name => v.child name
  | .indexed name index => (if name = "" then v else v.child name).item index

/-- Where a path leads. -/
def select (v : Value) (path : Path) : Value :=
  path.foldl follow v

/-! ## Laws -/

@[simp] theorem child_null (name : String) : Value.null.child name = .null := rfl

@[simp] theorem follow_null (segment : Segment) : Value.null.follow segment = .null := by
  cases segment with
  | named name => rfl
  | indexed name index => by_cases h : name = "" <;> simp [follow, h]

@[simp] theorem select_nil (v : Value) : v.select [] = v := rfl

theorem select_append (v : Value) (p q : Path) : v.select (p ++ q) = (v.select p).select q :=
  List.foldl_append

@[simp] theorem select_null (path : Path) : Value.null.select path = .null := by
  induction path with
  | nil => rfl
  | cons segment rest ih => simpa [select] using ih

end Value

end FormAutomation
