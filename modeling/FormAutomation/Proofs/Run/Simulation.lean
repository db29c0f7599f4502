import FormAutomation.Proofs.Run.Step

/-!
# Callers that answer alike

A caller may keep more than another one of what it saw, and answer alike all the same.  A run
then asks the same of both, goes the same way and leaves the same behind, and what the one keeps
of it is a part of what the other does.
-/

namespace FormAutomation

variable {σ τ : Type}

/-- One caller answers like the other, which keeps a part of what it keeps itself. -/
structure Caller.AnswersLike (part : σ → τ) (one : Caller σ) (other : Caller τ) : Prop where
  /-- the answers are the same, and so is the part that is kept -/
  call : ∀ request context state, other.call request context (part state)
    = ((one.call request context state).1, part (one.call request context state).2)

/-- The execution, of which a part is kept. -/
def Execution.map (part : σ → τ) (execution : Execution σ) : Execution τ where
  outcome := execution.outcome
  request := execution.request
  delay := execution.delay
  caller := part execution.caller

namespace Run

/-- The same setting with another caller. -/
def Setting.asking (setting : Setting σ) (caller : Caller τ) : Setting τ where
  graph := setting.graph
  caller? := some caller
  budget := setting.budget
  timeout := setting.timeout

/-- The state, of which a part is kept. -/
def State.map (part : σ → τ) (state : State σ) : State τ where
  steps := state.steps
  result := state.result
  requests := state.requests
  notices := state.notices
  caller := part state.caller

/-- The run, of which a part is kept. -/
def map (part : σ → τ) (run : Run σ) : Run τ where
  result := run.result
  requests := run.requests
  notices := run.notices
  caller := part run.caller

end Run

namespace Caller.AnswersLike

variable {part : σ → τ} {one : Caller σ} {other : Caller τ} {setting : Run.Setting σ}

theorem executeCall_map (h : one.AnswersLike part other) (id : String) (endpoint : Endpoint)
    (context : Context) (state : σ) (does : Value → Effect) :
    executeCall id endpoint context (some other) (part state) does
      = (executeCall id endpoint context (some one) state does).map part := by
  rcases hr : endpoint.request? context with _ | request
  · simp only [executeCall, hr, Execution.map]
  · simp only [executeCall, hr, h.call, Execution.map]

/-- Nodes are executed alike. -/
theorem execute_map (h : one.AnswersLike part other) (node : Node) (context : Context)
    (state : σ) :
    node.execute context (some other) (part state)
      = (node.execute context (some one) state).map part := by
  unfold Node.execute
  cases node.action with
  | callApi endpoint => exact h.executeCall_map ..
  | fetchOptions endpoint source => exact h.executeCall_map ..
  | _ => rfl

/-- A step is the same step. -/
theorem step_map (h : one.AnswersLike part other) (hc : setting.caller? = some one) (node : Node)
    (state : Run.State σ) :
    Run.step (setting.asking other) node (state.map part)
      = ((Run.step setting node state).1, (Run.step setting node state).2.map part) := by
  have hexecute := h.execute_map node state.result.context state.caller
  simp only [Run.step, Run.State.tell, Run.State.record, Run.State.map, Run.Setting.asking, hc,
    hexecute, Execution.map]
  rfl

/-- So is a chain, by induction on what is left of the budget. -/
theorem chain_map (h : one.AnswersLike part other) (hc : setting.caller? = some one) (left : Nat)
    (node : Node) (state : Run.State σ) :
    Run.chain (setting.asking other) left node (state.map part)
      = ((Run.chain setting left node state).1, (Run.chain setting left node state).2.map part) := by
  induction left generalizing node state with
  | zero => rfl
  | succ left ih =>
    have hstep := h.step_map hc node state
    rcases hs : Run.step setting node state with ⟨effect | fault, state'⟩
    · rw [hs] at hstep
      rcases hnext : Run.next? setting.graph node effect with _ | id
      · rw [Run.chain_ended hs hnext, Run.chain_ended hstep hnext]
        rfl
      · rcases htarget : setting.graph.node? id with _ | target
        · rw [Run.chain_lost hs hnext htarget, Run.chain_lost hstep hnext htarget]
          rfl
        · rw [Run.chain_next hs hnext htarget, Run.chain_next hstep hnext htarget]
          exact ih target (state'.apply effect)
    · rw [hs] at hstep
      rw [Run.chain_failed hs, Run.chain_failed hstep]
      rfl

/-- The chains are the same, one after the other. -/
theorem chains_map (h : one.AnswersLike part other) (hc : setting.caller? = some one)
    (starts : List Node) (state : Run.State σ) :
    Run.chains (setting.asking other) starts (state.map part)
      = (Run.chains setting starts state).map part := by
  induction starts generalizing state with
  | nil => rfl
  | cons start rest ih =>
    have hmap := h.chain_map hc (setting.budget - state.steps) start state
    rcases hchain : Run.chain setting (setting.budget - state.steps) start state
      with ⟨_ | _, state'⟩
    · rw [hchain] at hmap
      rw [Run.chains_halted hchain, Run.chains_halted hmap]
    · rw [hchain] at hmap
      rw [Run.chains_next hchain, Run.chains_next hmap]
      exact ih state'

/-- A run from start nodes is the same run. -/
theorem ofGraph_map (h : one.AnswersLike part other) (hc : setting.caller? = some one)
    (values : Context) (starts : List Node) (caller : σ) :
    Run.ofGraph (setting.asking other) values starts (part caller)
      = (Run.ofGraph setting values starts caller).map part := by
  have hchains := h.chains_map hc starts
    { steps := 0
      result := { workflow := setting.graph.id, context := values }
      requests := []
      notices := [.beforeRun setting.graph.id (starts.map (·.id)) values]
      caller }
  dsimp only [Run.ofGraph, Run.State.tell, Run.State.map, Run.Setting.asking] at hchains ⊢
  rw [hchains]
  rfl

/-- So is the run of a workflow. -/
theorem run_map (h : one.AnswersLike part other) (workflow : Workflow) (options : RunOptions)
    (values : Context) (event : Option FormEvent) (caller : σ) :
    workflow.run options values (some other) event (part caller)
      = (workflow.run options values (some one) event caller).map part := by
  let setting : Run.Setting σ := ⟨workflow.toGraph, some one, options.budget, options.timeout⟩
  have hc : setting.caller? = some one := rfl
  have hgraph := h.ofGraph_map hc values (workflow.toGraph.startNodes event) caller
  unfold Workflow.run Graph.run
  split
  · split
    · rfl
    · exact hgraph
  · rfl

end Caller.AnswersLike

end FormAutomation
