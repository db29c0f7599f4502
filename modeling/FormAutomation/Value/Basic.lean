import FormAutomation.Number.Binary64
import FormAutomation.Value.Entries

/-!
# Values

The values that a payload holds and that flow through a run: JSON values, with
whole numbers of any size kept apart from double-precision numbers, and objects
whose entries keep their order.
-/

namespace FormAutomation

/-- A JSON value. -/
inductive Value where
  /-- nothing -/
  | null
  /-- a truth value -/
  | bool (b : Bool)
  /-- a whole number, written without point and exponent -/
  | int (n : Int)
  /-- a number with a point or an exponent -/
  | float (x : Binary64)
  /-- a text -/
  | text (s : String)
  /-- a list -/
  | list (items : List Value)
  /-- an object; its names are distinct -/
  | object (fields : List (String × Value))

namespace Value

instance : Inhabited Value := ⟨.null⟩

/-- Whether the value is null. -/
def isNull : Value → Bool
  | .null => true
  | _ => false

/-- Whether the value says anything: it is neither null nor false, no zero, no
empty text and no empty container. -/
def isMeaningful : Value → Bool
  | .null => false
  | .bool b => b
  | .int n => n != 0
  | .float (.finite _ m _ _) => m != 0
  | .float _ => true
  | .text s => s != ""
  | .list items => !items.isEmpty
  | .object fields => !fields.isEmpty

/-- A text, or null for none. -/
def ofText? : Option String → Value
  | some s => .text s
  | none => .null

/-! ## One step into a value -/

/-- The entry of an object under a name; null when there is none, or no
object. -/
def field (v : Value) (name : String) : Value :=
  match v with
  | .object fields => (fields.lookup name).getD .null
  | _ => .null

/-- The item of a list at an index; null when there is none, or no list. -/
def item (v : Value) (index : Nat) : Value :=
  match v with
  | .list items => items[index]?.getD .null
  | _ => .null

@[simp] theorem field_null (name : String) : Value.null.field name = .null := rfl

@[simp] theorem item_null (index : Nat) : Value.null.item index = .null := rfl

end Value

end FormAutomation
