import FormAutomation.Check.Graph
import FormAutomation.Execution

/-!
# What a run leaves behind

A run records an event for every node that it executed, in order, and a last one
when it had to stop at a node that it could not execute.  Beside the events it
keeps what it set on the form, and the context that it ended with.
-/

namespace FormAutomation

/-- Something that a run recorded. -/
inductive Event where
  /-- a node was executed -/
  | executed (node : Node) (outcome : Outcome)
  /-- the budget was spent before a node could be executed -/
  | exhausted (node : Node) (budget : Nat)
  /-- an edge led to a node that does not exist -/
  | lost (id : String)

namespace Event

/-- The id of the node that the event is about. -/
def nodeId : Event → String
  | .executed node _ => node.id
  | .exhausted node _ => node.id
  | .lost id => id

/-- The kind of the node, if it exists. -/
def kind? : Event → Option NodeKind
  | .executed node _ => some node.kind
  | .exhausted node _ => some node.kind
  | .lost _ => none

/-- What is said of an error. -/
def error? : Event → Option String
  | .executed _ (.success _) => none
  | .executed _ (.failure fault) => some fault.message
  | .exhausted _ budget =>
    some s!"Execution exceeded max_steps={budget}; possible cycle in workflow graph."
  | .lost id => some s!"Edge leads to node '{id}', which does not exist."

/-- Whether the event is a success. -/
def succeeded : Event → Bool
  | .executed _ (.success _) => true
  | _ => false

/-- Whether the event is about a node that was not executed. -/
def isFatal : Event → Bool
  | .executed _ _ => false
  | .exhausted _ _ => true
  | .lost _ => true

/-- The branch that a condition took. -/
def branch? : Event → Option Bool
  | .executed _ (.success effect) => effect.branch
  | _ => none

/-- What the node told, as it is shown in a context. -/
def data (context : Context) : Event → Value
  | .executed _ (.success effect) => effect.report.toValue context
  | _ => .null

/-- The word for how the event ended. -/
def status (event : Event) : String :=
  if event.succeeded then "success" else "error"

/-- The event as an object; what there is nothing to say about is left out. -/
def toValue (context : Context) (event : Event) : Value :=
  .object ([("nodeId", .text event.nodeId),
    ("type", Value.ofText? (event.kind?.map NodeKind.name)), ("status", .text event.status)]
      ++ (event.branch?.map fun b => ("branch", Value.text (Port.ofBranch b).name)).toList
      ++ (if (event.data context).isNull then [] else [("data", event.data context)])
      ++ (event.error?.map fun message => ("error", Value.text message)).toList
      ++ (if event.isFatal then [("fatal", .bool true)] else []))

end Event

/-- What a run leaves behind. -/
structure RunResult where
  /-- the name of the graph -/
  workflow : String
  /-- what was recorded, in order -/
  events : List Event := []
  /-- the values set on the form -/
  fieldUpdates : Entries Value := []
  /-- the options given to select fields -/
  optionUpdates : Entries (List SelectOption) := []
  /-- the last page opened -/
  redirect : Option Redirect := none
  /-- the last message shown -/
  dialog : Option Dialog := none
  /-- why the graph was refused -/
  rejected : List Issue := []
  /-- the context at the end -/
  context : Context := []

namespace RunResult

/-- Whether the graph was run and nothing went wrong. -/
def succeeded (result : RunResult) : Bool :=
  result.rejected.isEmpty && result.events.all Event.succeeded

/-- Whether the run had to stop at a node that it could not execute. -/
def aborted (result : RunResult) : Bool :=
  result.events.any Event.isFatal

/-- The nodes that the events are about. -/
def visited (result : RunResult) : List String :=
  result.events.map Event.nodeId

/-- How the run ended, in a word. -/
def status (result : RunResult) : String :=
  if result.succeeded then "succeeded" else if result.aborted then "aborted" else "failed"

/-- The result as an object. -/
def toValue (result : RunResult) : Value :=
  .object ([("workflowId", .text result.workflow),
    ("events", .list (result.events.map (Event.toValue result.context))),
    ("fieldUpdates", .object result.fieldUpdates),
    ("optionUpdates", .object (result.optionUpdates.map fun (field, options) =>
      (field, .list (options.map SelectOption.toValue))))]
      ++ (match result.redirect with
        | some redirect =>
          [("redirectUrl", .text redirect.url), ("redirectNewTab", .bool redirect.newTab)]
        | none => [])
      ++ (result.dialog.map fun dialog => ("dialog", dialog.toValue)).toList
      ++ (if result.rejected.isEmpty then []
        else [("rejectedIssues", .list (result.rejected.map Issue.toValue))]))

end RunResult

end FormAutomation
