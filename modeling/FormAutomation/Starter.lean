import FormAutomation.Payload.Load

/-!
# Starter workflows

Two workflows that an author can begin with.  Each is kept as the payload that a
form would store, without an id of its own.
-/

namespace FormAutomation

/-- A workflow to begin with. -/
structure Starter where
  /-- the name that it is asked for by -/
  id : String
  /-- the name that people see -/
  name : String
  /-- what it does -/
  description : String
  /-- the nodes -/
  nodes : List Value
  /-- the edges -/
  edges : List Value

namespace Starter

/-- A node. -/
def node (id : String) (kind : NodeKind) (label : String) (config : Entries Value) : Value :=
  .object [("id", .text id), ("type", .text kind.name), ("label", .text label),
    ("config", .object config)]

/-- An edge. -/
def edge (id source : String) (port : Port) (target : String) : Value :=
  .object [("id", .text id), ("sourceNodeId", .text source), ("sourcePort", .text port.name),
    ("targetNodeId", .text target)]

/-- Sends the form and shows how it went. -/
def submitAndTell : Starter where
  id := "api-success-dialog"
  name := "API Call + Result Dialog"
  description :=
    "Submits the form to an API and shows a success or error dialog based on the result."
  nodes :=
    [node "tpl-trigger-submit" .trigger "On Submit" [("triggerType", .text "formSubmit")],
     node "tpl-api" .callApi "Submit Data"
       [("url", .text "https://api.example.com/submit"),
        ("method", .text "POST"),
        ("headers", .object [("Content-Type", .text "application/json")]),
        ("bodyTemplate", .text "\x7b\"email\": \"\x7b\x7bemail\x7d\x7d\"\x7d")],
     node "tpl-condition" .condition "Check Result"
       [("field", .text "tpl-api.status"), ("operator", .text "equals"),
        ("value", .text "success")],
     node "tpl-dialog-success" .showDialog "Success Dialog"
       [("title", .text "Success!"), ("message", .text "Your data was submitted successfully.")],
     node "tpl-dialog-error" .showDialog "Error Dialog"
       [("title", .text "Error"), ("message", .text "Failed to submit data.")]]
  edges :=
    [edge "e1" "tpl-trigger-submit" .out "tpl-api",
     edge "e2" "tpl-api" .out "tpl-condition",
     edge "e3" "tpl-condition" .whenTrue "tpl-dialog-success",
     edge "e4" "tpl-condition" .whenFalse "tpl-dialog-error"]

/-- Fills a select field when the page is opened. -/
def fetchOptions : Starter where
  id := "fetch-and-map"
  name := "Fetch Data & Pre-fill Options"
  description := "Fetches remote options on page load and hydrates a select field."
  nodes :=
    [node "tpl-trigger-load" .trigger "Page Load" [("triggerType", .text "pageLoad")],
     node "tpl-fetch-opts" .fetchOptions "Hydrate Field"
       [("url", .text "https://api.example.com/options"),
        ("method", .text "GET"),
        ("responsePath", .text "data"),
        ("labelKey", .text "name"),
        ("valueKey", .text "id"),
        ("targetFieldId", .text "country")]]
  edges := [edge "e1" "tpl-trigger-load" .out "tpl-fetch-opts"]

/-- The starter workflows in the order in which they are offered. -/
def all : List Starter :=
  [submitAndTell, fetchOptions]

/-- The payload of a starter. -/
def payload (starter : Starter) : Entries Value :=
  [("name", .text starter.name), ("enabled", .bool true), ("nodes", .list starter.nodes),
   ("edges", .list starter.edges)]

/-- Why there is no starter, or no workflow made of one. -/
inductive Fault where
  /-- there is no starter of this name -/
  | unknown (id : String)
  /-- the payload cannot be loaded -/
  | payload (fault : Payload.Fault)

/-- What is said of a fault; that a name is unknown is said in quotes. -/
def Fault.message : Fault → String
  | .unknown id => Text.quoted s!"Unknown workflow template '{id}'."
  | .payload fault => fault.message

/-- The starter of a name. -/
def get (id : String) : Except Fault Starter :=
  match all.find? (·.id == id) with
  | some starter => .ok starter
  | none => .error (.unknown id)

/-- The workflow made of a starter, under an id of its own or, if that says
nothing, under that of the starter. -/
def instantiate (id : String) (workflowId : Value) : Except Fault Workflow := do
  let starter ← get id
  let own := if workflowId.isMeaningful then workflowId else .text starter.id
  match Payload.loadWorkflow (.object (starter.payload.put "id" own)) with
  | .ok workflow => .ok workflow
  | .error fault => .error (.payload fault)

end Starter

end FormAutomation
