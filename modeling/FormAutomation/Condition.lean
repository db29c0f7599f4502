import FormAutomation.Number.Numeral
import FormAutomation.Text.Case
import FormAutomation.Text.Split
import FormAutomation.Value.Writer

/-!
# Conditions

A condition compares a value of the context with one written into the node.
Equality and containment compare the texts of the two, so `1` equals `"1"`;
containment takes no notice of letter case.  The four order operators compare
doubles, and fail to hold when either side is none.

A whole number beyond the range of doubles cannot be compared in order; that is
the only way in which a known operator can fail.
-/

namespace FormAutomation

/-- A value that a condition can be given. -/
inductive Scalar where
  /-- a text -/
  | text (s : String)
  /-- a whole number -/
  | int (n : Int)
  /-- a double -/
  | float (x : Binary64)
  /-- a truth value -/
  | bool (b : Bool)
  deriving DecidableEq

/-- The value that a scalar is. -/
def Scalar.toValue : Scalar → Value
  | .text s => .text s
  | .int n => .int n
  | .float x => .float x
  | .bool b => .bool b

namespace Condition

/-- How the two sides are compared. -/
inductive Operator where
  | equals
  | notEquals
  | contains
  | greaterThan
  | greaterThanOrEqual
  | lessThan
  | lessThanOrEqual
  | isEmpty
  | isNotEmpty
  deriving DecidableEq

/-- The operators in the order in which messages list them. -/
def Operator.all : List Operator :=
  [.equals, .notEquals, .contains, .greaterThan, .greaterThanOrEqual, .lessThan,
   .lessThanOrEqual, .isEmpty, .isNotEmpty]

/-- The name of an operator. -/
def Operator.name : Operator → String
  | .equals => "equals"
  | .notEquals => "notEquals"
  | .contains => "contains"
  | .greaterThan => "greaterThan"
  | .greaterThanOrEqual => "greaterThanOrEqual"
  | .lessThan => "lessThan"
  | .lessThanOrEqual => "lessThanOrEqual"
  | .isEmpty => "isEmpty"
  | .isNotEmpty => "isNotEmpty"

/-- The operator of a name. -/
def Operator.ofName? (name : String) : Option Operator :=
  Operator.all.find? (·.name == name)

/-- Why a condition cannot be evaluated. -/
inductive Fault where
  /-- there is no operator of this name -/
  | unsupported (name : String)
  /-- a whole number lies beyond the range of doubles -/
  | overflow
  deriving DecidableEq

/-- What is said of a fault. -/
def Fault.message : Fault → String
  | .unsupported name => s!"Unsupported condition operator '{name}'."
  | .overflow => "int too large to convert to float"

/-- A double unless it is no number. -/
def ordered (x : Binary64) : Option Binary64 :=
  if x.isNaN then none else some x

end Condition

open Condition in
/-- The double that a value counts as in a comparison, if any: a number as
itself, a truth value as one or zero, a text as the numeral it holds, an empty
one as zero. -/
def Value.number : Value → Except Condition.Fault (Option Binary64)
  | .null => .ok none
  | .bool b => .ok (some (.ofNat b.toNat))
  | .int n =>
    match Binary64.ofInt? n with
    | some x => .ok (some x)
    | none => .error .overflow
  | .float x => .ok (ordered x)
  | .text s =>
    let cs := Text.trimWhile Text.isBlank s.toList
    if cs.isEmpty then .ok (some (.zero false)) else .ok ((Numeral.readDouble cs).bind ordered)
  | .list _ => .ok none
  | .object _ => .ok none

namespace Condition

/-- Whether the value counts as left out. -/
def isBlankValue : Value → Bool
  | .null => true
  | .text s => s == ""
  | _ => false

/-- Whether two values stand in an order; not when either is no number. -/
def compare (holds : Binary64 → Binary64 → Bool) (actual expected : Value) :
    Except Fault Bool := do
  let left ← actual.number
  let right ← expected.number
  match left, right with
  | some x, some y => .ok (holds x y)
  | _, _ => .ok false

/-- Whether the text of one value occurs in that of another, letter case
aside. -/
def containsText (actual expected : Value) : Bool :=
  Text.occursIn (Text.lower expected.toText).toList (Text.lower actual.toText).toList

/-- What a value is compared with: null stands for the empty text. -/
def comparand : Value → Value
  | .null => .text ""
  | v => v

/-- Whether the operator holds between two values. -/
def holds (operator : Operator) (actual expected : Value) : Except Fault Bool :=
  let expected := comparand expected
  match operator with
  | .equals => .ok (actual.toText == expected.toText)
  | .notEquals => .ok (actual.toText != expected.toText)
  | .contains => .ok (containsText actual expected)
  | .isEmpty => .ok (isBlankValue actual)
  | .isNotEmpty => .ok (!isBlankValue actual)
  | .greaterThan => compare (fun x y => y.lt x) actual expected
  | .greaterThanOrEqual => compare (fun x y => y.le x) actual expected
  | .lessThan => compare Binary64.lt actual expected
  | .lessThanOrEqual => compare Binary64.le actual expected

/-- Whether the operator of a name holds between two values. -/
def evaluate (name : String) (actual expected : Value) : Except Fault Bool :=
  match Operator.ofName? name with
  | some operator => holds operator actual expected
  | none => .error (.unsupported name)

/-! ## Names -/

theorem Operator.ofName?_name (operator : Operator) :
    Operator.ofName? operator.name = some operator := by
  cases operator <;> rfl

end Condition

end FormAutomation
