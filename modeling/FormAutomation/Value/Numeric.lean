import FormAutomation.Number.Numeral
import FormAutomation.Text.Quoted
import FormAutomation.Value.Basic

/-!
# Numbers from values

Where a number is asked for, a value of another kind may be given: a truth value
is one or zero, a text the numeral it holds, and a double becomes whole by
losing its fraction.  What is none of these is a fault of its own.
-/

namespace FormAutomation.Value

/-- Why a value is no number. -/
inductive NumberFault where
  /-- the text holds no whole number -/
  | noWhole (text : String)
  /-- the text holds a whole number of too many digits -/
  | tooLong (digits : Nat)
  /-- the text holds no number -/
  | noNumber (text : String)
  /-- a value of this kind is no whole number -/
  | wholeOf (kind : String)
  /-- a value of this kind is no number -/
  | numberOf (kind : String)
  /-- what is no number has no whole part -/
  | wholeOfNaN
  /-- infinity has no whole part -/
  | wholeOfInfinity
  /-- the whole number lies beyond the range of doubles -/
  | tooLarge
  deriving DecidableEq

/-- How much of a text that holds no whole number a message shows. -/
def shownLength : Nat := 200

/-- What is said of a fault. -/
def NumberFault.message : NumberFault → String
  | .noWhole s =>
    let shown := String.ofList ((Text.quoted s).toList.take shownLength)
    s!"invalid literal for int() with base 10: {shown}"
  | .tooLong digits =>
    s!"Exceeds the limit ({Numeral.longest}) for integer string conversion: value has {digits} "
      ++ "digits; use sys.set_int_max_str_digits() to increase the limit"
  | .noNumber s =>
    let shown := Text.quoted s
    s!"could not convert string to float: {shown}"
  | .wholeOf kind =>
    s!"int() argument must be a string, a bytes-like object or a real number, not '{kind}'"
  | .numberOf kind => s!"float() argument must be a string or a real number, not '{kind}'"
  | .wholeOfNaN => "cannot convert float NaN to integer"
  | .wholeOfInfinity => "cannot convert float infinity to integer"
  | .tooLarge => "int too large to convert to float"

/-- The name of a kind of values that are no numbers. -/
def kindName : Value → String
  | .list _ => "list"
  | .object _ => "dict"
  | _ => "NoneType"

/-- The whole number that a value stands for. -/
def toWhole : Value → Except NumberFault Int
  | .bool b => .ok (if b then 1 else 0)
  | .int n => .ok n
  | .float .nan => .error .wholeOfNaN
  | .float (.infinity _) => .error .wholeOfInfinity
  | .float x => .ok (x.truncate?.getD 0)
  | .text s =>
    match Numeral.readInt s.toList with
    | some n => .ok n
    | none =>
      match Numeral.overlong? s.toList with
      | some digits => .error (.tooLong digits)
      | none => .error (.noWhole s)
  | v => .error (.wholeOf v.kindName)

/-- The double that a value stands for. -/
def toDouble : Value → Except NumberFault Binary64
  | .bool b => .ok (.ofNat (if b then 1 else 0))
  | .int n =>
    match Binary64.ofInt? n with
    | some x => .ok x
    | none => .error .tooLarge
  | .float x => .ok x
  | .text s =>
    match Numeral.readDouble s.toList with
    | some x => .ok x
    | none => .error (.noNumber s)
  | v => .error (.numberOf v.kindName)

end FormAutomation.Value
