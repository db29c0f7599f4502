import FormAutomation.Value.Path

/-!
# The context of a run

A run carries one context: the form's values under their field ids, and under
the id of every node that made a call, and under `response`, what came back.
Templates, conditions and mappings refer to it by name or by path; a name that
is there wins over any path that could be read from it.
-/

namespace FormAutomation

/-- The values that a node can refer to. -/
abbrev Context := Entries Value

namespace Context

/-- The name under which the last response stands. -/
def responseName : String := "response"

/-- What a reference finds. -/
inductive Reading where
  /-- a value of the context -/
  | value (v : Value)
  /-- the context as a whole, shown as it stands when it is looked at -/
  | whole

/-- What a reference finds: an entry of that name, else what the path leads to.
The path that leads nowhere else finds the whole context. -/
def read (context : Context) (reference : String) : Reading :=
  match context.lookup reference with
  | some v => .value v
  | none =>
    match Path.ofText reference with
    | [] => .whole
    | path => .value ((Value.object context).select path)

/-- The value of a reading in a context. -/
def Reading.toValue (context : Context) : Reading → Value
  | .value v => v
  | .whole => .object context

/-- The value of a reference. -/
def resolve (context : Context) (reference : String) : Value :=
  (context.read reference).toValue context

/-- The name that a written path starts from. -/
def rootOf (source : String) : String :=
  String.ofList (source.toList.takeWhile fun c => c != '.' && c != '[')

/-- The value that a mapping copies: that of an entry or of a path that starts
from one; any other path is followed in the last response. -/
def resolveSource (context : Context) (source : String) : Value :=
  if source = "" then .null
  else
    match context.lookup source with
    | some v => v
    | none =>
      if context.has (rootOf source) then (Value.object context).select (Path.ofText source)
      else ((context.lookup responseName).getD .null).select (Path.ofText source)

/-! ## Laws -/

/-- A name that is there is read as it stands. -/
theorem resolve_of_lookup {context : Context} {reference : String} {v : Value}
    (h : context.lookup reference = some v) : context.resolve reference = v := by
  simp [resolve, read, h, Reading.toValue]

/-- A name that is not there is read as a path. -/
theorem resolve_of_lookup_none {context : Context} {reference : String}
    (h : context.lookup reference = none) :
    context.resolve reference = (Value.object context).select (Path.ofText reference) := by
  unfold resolve read
  rw [h]
  cases hp : Path.ofText reference <;> simp [Reading.toValue]

end Context

end FormAutomation
