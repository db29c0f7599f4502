import FormAutomation.Proofs.Run.Effect
import FormAutomation.Run.Basic

/-!
# What a step does

A step executes its node in the context as it is and records what came of it; it
puts nothing into effect yet.  A step that succeeds tells of a branch exactly
when its node is a condition, so the port by which a node is left can be read off
the event that was recorded.
-/

namespace FormAutomation

variable {σ : Type}

/-! ## Events -/

namespace Event

/-- What succeeded was executed. -/
theorem isFatal_of_succeeded {event : Event} (h : event.succeeded = true) :
    event.isFatal = false := by
  cases event with
  | executed node outcome => rfl
  | exhausted node budget => cases h
  | lost id => cases h

/-- A node that could not be executed is no success. -/
theorem succeeded_of_isFatal {event : Event} (h : event.isFatal = true) :
    event.succeeded = false := by
  rw [Bool.eq_false_iff]
  intro hs
  rw [isFatal_of_succeeded hs] at h
  cases h

end Event

/-! ## Outcomes -/

/-- A node that succeeds takes a branch exactly if it is a condition. -/
theorem Node.isSome_branch_of_execute {node : Node} {context : Context}
    {caller? : Option (Caller σ)} {state : σ} {effect : Effect}
    (h : (node.execute context caller? state).outcome = .success effect) :
    effect.branch.isSome = (node.kind == .condition) := by
  have hdoes := Node.does_of_execute h
  unfold Node.kind
  generalize node.action = action at hdoes
  cases hdoes <;> rfl

namespace Run

/-! ## States -/

namespace State

variable (state : State σ)

@[simp] theorem apply_events (effect : Effect) :
    (state.apply effect).result.events = state.result.events := rfl

@[simp] theorem apply_steps (effect : Effect) : (state.apply effect).steps = state.steps := rfl

@[simp] theorem record_events (event : Event) :
    (state.record event).result.events = state.result.events ++ [event] := rfl

@[simp] theorem record_steps (event : Event) : (state.record event).steps = state.steps := rfl

@[simp] theorem tell_result (notice : Notice) : (state.tell notice).result = state.result := rfl

@[simp] theorem abort_events (event : Event) :
    (state.abort event).result.events = state.result.events ++ [event] := rfl

end State

/-! ## Steps -/

variable {setting : Setting σ} {node : Node} {state state' : State σ} {outcome : Outcome}
  {effect : Effect}

/-- A step executes its node in the context as it is. -/
theorem outcome_of_step (h : step setting node state = (outcome, state')) :
    outcome
      = setting.limit node (node.execute state.result.context setting.caller? state.caller) := by
  obtain ⟨rfl, -⟩ := Prod.mk.inj h
  rfl

/-- A step records its node with what came of it, and puts nothing into effect. -/
theorem result_of_step (h : step setting node state = (outcome, state')) :
    state'.result
      = { state.result with events := state.result.events ++ [.executed node outcome] } := by
  obtain ⟨rfl, rfl⟩ := Prod.mk.inj h
  rfl

theorem events_of_step (h : step setting node state = (outcome, state')) :
    state'.result.events = state.result.events ++ [.executed node outcome] := by
  rw [result_of_step h]

/-- A step makes the request of its node. -/
theorem requests_of_step (h : step setting node state = (outcome, state')) :
    state'.requests = state.requests
      ++ (node.execute state.result.context setting.caller? state.caller).request.toList := by
  obtain ⟨-, rfl⟩ := Prod.mk.inj h
  rfl

theorem caller_of_step (h : step setting node state = (outcome, state')) :
    state'.caller = (node.execute state.result.context setting.caller? state.caller).caller := by
  obtain ⟨-, rfl⟩ := Prod.mk.inj h
  rfl

/-- A step is told of before its node is executed and after it was recorded. -/
theorem notices_of_step (h : step setting node state = (outcome, state')) :
    state'.notices = state.notices
      ++ [.beforeNode state.result.workflow node (state.steps + 1),
        .afterNode state.result.workflow node (state.steps + 1)
          ((Event.executed node outcome).toValue state.result.context)] := by
  obtain ⟨rfl, rfl⟩ := Prod.mk.inj h
  simp [State.tell, State.record]

/-- A step is counted. -/
theorem steps_of_step (h : step setting node state = (outcome, state')) :
    state'.steps = state.steps + 1 := by
  obtain ⟨-, rfl⟩ := Prod.mk.inj h
  rfl

/-- What a node does within the time limit is what it does. -/
theorem execution_of_limit {execution : Execution σ}
    (h : setting.limit node execution = .success effect) : execution.outcome = .success effect := by
  unfold Setting.limit at h
  split at h
  · cases h
  · exact h

/-- A step that succeeds does what the action of its node says, in the context as it
is. -/
theorem does_of_step (h : step setting node state = (.success effect, state')) :
    node.action.Does node.id state.result.context effect := by
  obtain ⟨ho, -⟩ := Prod.mk.inj h
  exact Node.does_of_execute (execution_of_limit ho)

/-- A step that succeeds takes a branch exactly if its node is a condition. -/
theorem isSome_branch_of_step (h : step setting node state = (.success effect, state')) :
    effect.branch.isSome = (node.kind == .condition) := by
  obtain ⟨ho, -⟩ := Prod.mk.inj h
  exact Node.isSome_branch_of_execute (execution_of_limit ho)

/-! ## Chains

A chain goes on in one of five ways. -/

variable {left : Nat} {fault : NodeFault} {id : String} {target : Node}

theorem chain_exhausted :
    chain setting 0 node state = (false, state.abort (.exhausted node setting.budget)) := rfl

theorem chain_failed (hs : step setting node state = (.failure fault, state')) :
    chain setting (left + 1) node state
      = (false, state'.tell
          (.onError state'.result.workflow (.executed node (.failure fault)) state'.steps)) := by
  simp only [chain, hs]

theorem chain_ended (hs : step setting node state = (.success effect, state'))
    (he : next? setting.graph node effect = none) :
    chain setting (left + 1) node state = (true, state'.apply effect) := by
  simp only [chain, hs, he]

theorem chain_lost (hs : step setting node state = (.success effect, state'))
    (he : next? setting.graph node effect = some id) (ht : setting.graph.node? id = none) :
    chain setting (left + 1) node state = (false, (state'.apply effect).abort (.lost id)) := by
  simp only [chain, hs, he, ht]

theorem chain_next (hs : step setting node state = (.success effect, state'))
    (he : next? setting.graph node effect = some id) (ht : setting.graph.node? id = some target) :
    chain setting (left + 1) node state = chain setting left target (state'.apply effect) := by
  simp only [chain, hs, he, ht]

/-! ## Start nodes -/

variable {start : Node} {rest : List Node}

theorem chains_next (hc : chain setting (setting.budget - state.steps) start state = (true, state')) :
    chains setting (start :: rest) state = chains setting rest state' := by
  simp only [chains, hc]

theorem chains_halted
    (hc : chain setting (setting.budget - state.steps) start state = (false, state')) :
    chains setting (start :: rest) state = state' := by
  simp only [chains, hc]

end Run

end FormAutomation
