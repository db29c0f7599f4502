import FormAutomation.Dispatch
import FormAutomation.Run.Notice
import FormAutomation.Run.Options

/-!
# Running a graph

A run executes one node at a time.  It takes its start nodes one after the other
and follows from each the edges of the ports by which the nodes are left, the
first edge of several; such a *chain* ends where no edge goes on.  An error ends
the whole run, and so does a node that does not exist.

All chains share one budget of steps.  Before every step the budget is looked
at, so a run ends whatever the graph is like; the recursion is on what is left
of the budget.

Between two steps the context changes: what a node sets is put over it, and the
next node reads the context as it is then.
-/

namespace FormAutomation

/-- What stays the same during a run. -/
structure Run.Setting (σ : Type) where
  /-- the graph -/
  graph : Graph
  /-- who answers requests -/
  caller? : Option (Caller σ)
  /-- how many nodes may be executed -/
  budget : Nat
  /-- how many seconds a call may take -/
  timeout : Binary64

/-- Where a run stands. -/
structure Run.State (σ : Type) where
  /-- the steps taken -/
  steps : Nat
  /-- what it leaves behind so far -/
  result : RunResult
  /-- the requests made so far, in order -/
  requests : List Request
  /-- what was told so far, in order -/
  notices : List Notice
  /-- the caller's state -/
  caller : σ

/-- A run that is over. -/
structure Run (σ : Type) where
  /-- what it leaves behind -/
  result : RunResult
  /-- the requests that it made, in order -/
  requests : List Request
  /-- what it told, in order -/
  notices : List Notice
  /-- the caller's state at the end -/
  caller : σ

namespace Run

/-! ## One step -/

/-- The outcome of an execution within a time limit. -/
def Setting.limit {σ : Type} (setting : Setting σ) (node : Node) (execution : Execution σ) :
    Outcome :=
  if setting.timeout.lt execution.delay then .failure (.timeout node.id setting.timeout)
  else execution.outcome

namespace State

variable {σ : Type}

/-- The state after something was told. -/
def tell (state : State σ) (notice : Notice) : State σ :=
  { state with notices := state.notices ++ [notice] }

/-- The state after an event was recorded. -/
def record (state : State σ) (event : Event) : State σ :=
  { state with result := { state.result with events := state.result.events ++ [event] } }

/-- The state after what a node did was put into effect. -/
def apply (state : State σ) (effect : Effect) : State σ :=
  { state with
    result :=
      { state.result with
        fieldUpdates := state.result.fieldUpdates.overlay effect.fieldUpdates
        optionUpdates := state.result.optionUpdates.overlay effect.optionUpdates
        redirect := effect.redirect <|> state.result.redirect
        dialog := effect.dialog <|> state.result.dialog
        context := state.result.context.overlay effect.patch } }

/-- The state after an event that ends the run. -/
def abort (state : State σ) (event : Event) : State σ :=
  (state.record event).tell (.onError state.result.workflow event state.steps)

end State

/-- The outcome of the next step, and the state after it was recorded; nothing
is put into effect yet. -/
def step {σ : Type} (setting : Setting σ) (node : Node) (state : State σ) :
    Outcome × State σ :=
  let state := { state with steps := state.steps + 1 }
  let workflow := state.result.workflow
  let state := state.tell (.beforeNode workflow node state.steps)
  let execution := node.execute state.result.context setting.caller? state.caller
  let outcome := setting.limit node execution
  let event := Event.executed node outcome
  let state :=
    { state with
      requests := state.requests ++ execution.request.toList
      caller := execution.caller }
  let state := state.record event
  let state :=
    state.tell (.afterNode workflow node state.steps (event.toValue state.result.context))
  (outcome, state)

/-! ## Chains -/

/-- The port by which a node is left after what it did. -/
def portAfter (effect : Effect) : Port :=
  match effect.branch with
  | some result => Port.ofBranch result
  | none => .out

/-- The id that the first edge leads to by which a node is left. -/
def next? (graph : Graph) (node : Node) (effect : Effect) : Option String :=
  (graph.outgoingOn node.id (portAfter effect)).head?.map (·.target)

/-- Follows a chain from a node.  The result tells whether the run goes on with
the next start node. -/
def chain {σ : Type} (setting : Setting σ) : Nat → Node → State σ → Bool × State σ
  | 0, node, state => (false, state.abort (.exhausted node setting.budget))
  | left + 1, node, state =>
    match step setting node state with
    | (.failure fault, state) =>
      (false, state.tell
        (.onError state.result.workflow (.executed node (.failure fault)) state.steps))
    | (.success effect, state) =>
      let state := state.apply effect
      match next? setting.graph node effect with
      | none => (true, state)
      | some id =>
        match setting.graph.node? id with
        | some node => chain setting left node state
        | none => (false, state.abort (.lost id))

/-- Follows the chains of the start nodes, until one ends in an error. -/
def chains {σ : Type} (setting : Setting σ) : List Node → State σ → State σ
  | [], state => state
  | start :: rest, state =>
    match chain setting (setting.budget - state.steps) start state with
    | (true, state) => chains setting rest state
    | (false, state) => state

/-! ## Runs -/

/-- A run in which nothing happens. -/
def idle {σ : Type} (result : RunResult) (caller : σ) : Run σ :=
  { result, requests := [], notices := [], caller }

/-- The run of a graph from its start nodes. -/
def ofGraph {σ : Type} (setting : Setting σ) (values : Context) (starts : List Node)
    (caller : σ) : Run σ :=
  let workflow := setting.graph.id
  let start : State σ :=
    { steps := 0
      result := { workflow, context := values }
      requests := []
      notices := [.beforeRun workflow (starts.map (·.id)) values]
      caller }
  let state := chains setting starts start
  let result := state.result
  let state := state.tell (.afterRun workflow result.status result.visited result.toValue)
  { result, requests := state.requests, notices := state.notices, caller := state.caller }

end Run

/-- The run of a graph on the values of a form, after an event or without one. -/
def Graph.run {σ : Type} (graph : Graph) (options : RunOptions) (values : Context)
    (caller? : Option (Caller σ)) (event : Option FormEvent) (caller : σ) : Run σ :=
  if options.gate && !graph.isValid then
    Run.idle { workflow := graph.id, rejected := graph.issues } caller
  else
    Run.ofGraph { graph, caller?, budget := options.budget, timeout := options.timeout } values
      (graph.startNodes event) caller

/-- The run of a workflow; one that is not enabled does nothing. -/
def Workflow.run {σ : Type} (workflow : Workflow) (options : RunOptions) (values : Context)
    (caller? : Option (Caller σ)) (event : Option FormEvent) (caller : σ) : Run σ :=
  if workflow.enabled then workflow.toGraph.run options values caller? event caller
  else Run.idle { workflow := workflow.id } caller

/-- Why a run is refused that would have to be waited for while another one is
going on. -/
def Run.nestedMessage : String :=
  "WorkflowEngine.run() cannot be called inside an active event loop. Use await arun()."

end FormAutomation
