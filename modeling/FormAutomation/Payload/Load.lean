import FormAutomation.Payload.Migration
import FormAutomation.Payload.Schema
import FormAutomation.Value.Reader

/-!
# Loading payloads

A payload is a JSON value or a text that holds one.  It is brought into its
present shape and then read by the schema; the reasons why that can fail are
causes of their own.
-/

namespace FormAutomation.Payload

/-- Why a payload cannot be loaded. -/
inductive Fault where
  /-- the text is no JSON -/
  | notJson (fault : Json.Fault) (text : String)
  /-- the payload is no object -/
  | notObject
  /-- an older shape cannot be brought into the present one -/
  | migration (fault : Migration.Fault)
  /-- the payload does not fit the schema -/
  | refused (complaints : List Complaint)

/-- What is said of a fault. -/
def Fault.message : Fault → String
  | .notJson fault text => s!"Workflow payload is not valid JSON: {fault.message text}"
  | .notObject => "Workflow payload must be a JSON object with 'nodes' and 'edges'."
  | .migration fault => fault.message
  | .refused complaints =>
    "Workflow payload failed validation:\n"
      ++ "\n".intercalate (complaints.map fun complaint => s!"- {complaint.message}")

/-- The value of a payload: of a text, the JSON that it holds. -/
def value : Value → Except Fault Value
  | .text s =>
    match Json.parse s with
    | .ok v => .ok v
    | .error fault => .error (.notJson fault s)
  | v => .ok v

/-- A payload read by a schema. -/
def loadBy {α : Type} (schema : Entries Value → Checked α) (payload : Value) :
    Except Fault α := do
  match ← value payload with
  | .object fields =>
    match Migration.payload fields with
    | .error fault => .error (.migration fault)
    | .ok (fields, _) =>
      match schema fields with
      | .ok a => .ok a
      | .error complaints => .error (.refused complaints)
  | _ => .error .notObject

/-- The graph of a payload. -/
def loadGraph (payload : Value) : Except Fault Graph :=
  loadBy Schema.graph payload

/-- The workflow of a payload. -/
def loadWorkflow (payload : Value) : Except Fault Workflow :=
  loadBy Schema.workflow payload

end FormAutomation.Payload
