import FormAutomation.Run.Result

/-!
# Notices

A run tells those who watch it what it does: that it starts, that a node is
about to be executed and that it was, that something went wrong, and that it is
over.  A notice holds everything as it was at that moment.
-/

namespace FormAutomation

/-- What a notice is about. -/
inductive Occasion where
  /-- the run starts -/
  | beforeRun
  /-- the run is over -/
  | afterRun
  /-- a node is about to be executed -/
  | beforeNode
  /-- a node was executed -/
  | afterNode
  /-- something went wrong -/
  | onError
  deriving DecidableEq

namespace Occasion

/-- The occasions in the order of their names. -/
def all : List Occasion :=
  [.afterNode, .afterRun, .beforeNode, .beforeRun, .onError]

/-- The name of an occasion. -/
def name : Occasion → String
  | .beforeRun => "before_run"
  | .afterRun => "after_run"
  | .beforeNode => "before_node"
  | .afterNode => "after_node"
  | .onError => "on_error"

/-- The occasion of a name. -/
def ofName? (name : String) : Option Occasion :=
  all.find? (·.name == name)

/-- Whether the occasion is about a node. -/
def isAboutNode : Occasion → Bool
  | .beforeRun => false
  | .afterRun => false
  | _ => true

theorem ofName?_name (occasion : Occasion) : ofName? occasion.name = some occasion := by
  cases occasion <;> rfl

end Occasion

/-- What a run tells. -/
inductive Notice where
  /-- it starts at these nodes, with these values -/
  | beforeRun (workflow : String) (starts : List String) (values : Context)
  /-- it is about to execute a node -/
  | beforeNode (workflow : String) (node : Node) (step : Nat)
  /-- it has executed a node and recorded this -/
  | afterNode (workflow : String) (node : Node) (step : Nat) (event : Value)
  /-- something went wrong at a node -/
  | onError (workflow : String) (event : Event) (step : Nat)
  /-- it is over, with this result -/
  | afterRun (workflow : String) (status : String) (visited : List String) (result : Value)

namespace Notice

/-- What the notice is about. -/
def occasion : Notice → Occasion
  | .beforeRun .. => .beforeRun
  | .beforeNode .. => .beforeNode
  | .afterNode .. => .afterNode
  | .onError .. => .onError
  | .afterRun .. => .afterRun

/-- A list of texts. -/
def texts (items : List String) : Value :=
  .list (items.map .text)

/-- What a notice about a node says of it. -/
def aboutNode (workflow id : String) (kind : Option NodeKind) (step : Nat) : Entries Value :=
  [("workflow_id", .text workflow), ("node_id", .text id),
   ("node_type", Value.ofText? (kind.map NodeKind.name)), ("step", .int step)]

/-- What is told. -/
def payload : Notice → Entries Value
  | .beforeRun workflow starts values =>
    [("workflow_id", .text workflow), ("start_nodes", texts starts), ("values", .object values)]
  | .beforeNode workflow node step => aboutNode workflow node.id node.kind step
  | .afterNode workflow node step event =>
    aboutNode workflow node.id node.kind step ++ [("event", event)]
  | .onError workflow event step =>
    aboutNode workflow event.nodeId event.kind? step
      ++ [("error", Value.ofText? event.error?), ("fatal", .bool event.isFatal)]
  | .afterRun workflow status visited result =>
    [("workflow_id", .text workflow), ("status", .text status),
     ("visited_nodes", texts visited), ("result", result)]

end Notice

end FormAutomation
