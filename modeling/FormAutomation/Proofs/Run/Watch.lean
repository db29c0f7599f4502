import FormAutomation.Hook
import FormAutomation.Proofs.Run.Move

/-!
# Runs that are watched

A run calls those who watch it at the moment at which it has something to tell, and only
then goes on.  What it tells is also kept, in order, so all of it can be told afterwards.

Here the run is written with the calls in their places.  The two are the same: a run that
is watched calls the callbacks as if it were told of when it is over, and it leaves behind
what it leaves behind when nobody watches.  Only a callback that spoils what it is given
for those after it can keep a run from its end.
-/

namespace FormAutomation

variable {α β σ : Type}

/-! ## Being watched -/

/-- Something that was watched. -/
structure Watched (α : Type) where
  /-- the calls that were made -/
  deliveries : List Delivery
  /-- what came of it, or the fault that ended it -/
  result : Except Registry.Fault α

namespace Watched

/-- Nothing is told. -/
protected def pure (result : α) : Watched α := ⟨[], .ok result⟩

/-- One is watched after the other, unless a fault ends the first. -/
protected def bind (watched : Watched α) (next : α → Watched β) : Watched β :=
  match watched.result with
  | .ok result => ⟨watched.deliveries ++ (next result).deliveries, (next result).result⟩
  | .error fault => ⟨watched.deliveries, .error fault⟩

instance : Monad Watched where
  pure := Watched.pure
  bind := Watched.bind

end Watched

namespace Registry

variable {registry : Registry}

/-- Passes on what was told, and then returns a result. -/
def passOn (registry : Registry) (notices : List Notice) (result : α) : Watched α :=
  match registry.emitAll notices with
  | (deliveries, none) => ⟨deliveries, .ok result⟩
  | (deliveries, some fault) => ⟨deliveries, .error fault⟩

/-- The first fault ends all. -/
theorem emitAll_append (notices more : List Notice) :
    registry.emitAll (notices ++ more)
      = match registry.emitAll notices with
        | (deliveries, none) =>
          (deliveries ++ (registry.emitAll more).1, (registry.emitAll more).2)
        | (deliveries, some fault) => (deliveries, some fault) := by
  induction notices with
  | nil => rfl
  | cons notice rest ih =>
    rw [List.cons_append, emitAll, emitAll, ih]
    rcases registry.emit notice.occasion.name notice.payload with ⟨deliveries, fault | fault⟩
    · rcases registry.emitAll rest with ⟨others, fault | fault⟩
      · simp
      · simp
    · rfl

/-- Something that was watched comes to a result and to passing on what was told in
between. -/
def IsPassedOn (registry : Registry) (watched : Watched α) (result : α)
    (before after : List Notice) : Prop :=
  ∃ told, after = before ++ told ∧ watched = registry.passOn told result

namespace IsPassedOn

variable {before after final : List Notice}

theorem pure (result : α) : registry.IsPassedOn (pure result) result before before :=
  ⟨[], (List.append_nil before).symm, rfl⟩

/-- What was told one after the other is passed on together. -/
theorem bind {watched : Watched α} {result : α} {next : α → Watched β} {result' : β}
    (h : registry.IsPassedOn watched result before after)
    (hnext : registry.IsPassedOn (next result) result' after final) :
    registry.IsPassedOn (watched >>= next) result' before final := by
  obtain ⟨told, rfl, rfl⟩ := h
  obtain ⟨more, rfl, hmore⟩ := hnext
  refine ⟨told ++ more, List.append_assoc .., ?_⟩
  change Watched.bind _ _ = _
  rw [passOn, passOn, emitAll_append]
  rcases registry.emitAll told with ⟨deliveries, fault | fault⟩
  · simp only [Watched.bind, hmore, passOn]
    rcases registry.emitAll more with ⟨others, fault | fault⟩
    · rfl
    · rfl
  · rfl

end IsPassedOn

end Registry

/-! ## The run with the calls in their places -/

namespace Run

/-- Tells something, and calls those who watch. -/
def State.announce (registry : Registry) (state : State σ) (notice : Notice) :
    Watched (State σ) :=
  match registry.emit notice.occasion.name notice.payload with
  | (deliveries, none) => ⟨deliveries, .ok (state.tell notice)⟩
  | (deliveries, some fault) => ⟨deliveries, .error fault⟩

/-- A step that is watched. -/
def watchedStep (registry : Registry) (setting : Setting σ) (node : Node) (state : State σ) :
    Watched (Outcome × State σ) := do
  let state := { state with steps := state.steps + 1 }
  let workflow := state.result.workflow
  let state ← state.announce registry (.beforeNode workflow node state.steps)
  let execution := node.execute state.result.context setting.caller? state.caller
  let outcome := setting.limit node execution
  let event := Event.executed node outcome
  let state :=
    { state with
      requests := state.requests ++ execution.request.toList
      caller := execution.caller }
  let state := state.record event
  let state ← state.announce registry
    (.afterNode workflow node state.steps (event.toValue state.result.context))
  return (outcome, state)

/-- Records an event that ends the run, and calls those who watch. -/
def State.watchedAbort (registry : Registry) (state : State σ) (event : Event) :
    Watched (Bool × State σ) := do
  let state ← (state.record event).announce registry
    (.onError state.result.workflow event state.steps)
  return (false, state)

/-- A chain that is watched. -/
def watchedChain (registry : Registry) (setting : Setting σ) :
    Nat → Node → State σ → Watched (Bool × State σ)
  | 0, node, state => state.watchedAbort registry (.exhausted node setting.budget)
  | left + 1, node, state => do
    match ← watchedStep registry setting node state with
    | (.failure fault, state) =>
      let state ← state.announce registry
        (.onError state.result.workflow (.executed node (.failure fault)) state.steps)
      return (false, state)
    | (.success effect, state) =>
      let state := state.apply effect
      match next? setting.graph node effect with
      | none => return (true, state)
      | some id =>
        match setting.graph.node? id with
        | some node => watchedChain registry setting left node state
        | none => state.watchedAbort registry (.lost id)

/-- The chains of start nodes, watched until one ends in an error. -/
def watchedChains (registry : Registry) (setting : Setting σ) :
    List Node → State σ → Watched (State σ)
  | [], state => return state
  | start :: rest, state => do
    match ← watchedChain registry setting (setting.budget - state.steps) start state with
    | (true, state) => watchedChains registry setting rest state
    | (false, state) => return state

/-- The run of a graph from its start nodes, watched. -/
def watchedOfGraph (registry : Registry) (setting : Setting σ) (values : Context)
    (starts : List Node) (caller : σ) : Watched (Run σ) := do
  let workflow := setting.graph.id
  let start : State σ :=
    { steps := 0
      result := { workflow, context := values }
      requests := []
      notices := []
      caller }
  let state ← start.announce registry (.beforeRun workflow (starts.map (·.id)) values)
  let state ← watchedChains registry setting starts state
  let result := state.result
  let state ← state.announce registry
    (.afterRun workflow result.status result.visited result.toValue)
  return { result, requests := state.requests, notices := state.notices, caller := state.caller }

end Run

/-- The run of a graph, watched. -/
def Graph.watchedRun (registry : Registry) (graph : Graph) (options : RunOptions)
    (values : Context) (caller? : Option (Caller σ)) (event : Option FormEvent) (caller : σ) :
    Watched (Run σ) :=
  if options.gate && !graph.isValid then
    return .idle { workflow := graph.id, rejected := graph.issues } caller
  else
    Run.watchedOfGraph registry (options.setting graph caller?) values (graph.startNodes event)
      caller

/-- The run of a workflow, watched. -/
def Workflow.watchedRun (registry : Registry) (workflow : Workflow) (options : RunOptions)
    (values : Context) (caller? : Option (Caller σ)) (event : Option FormEvent) (caller : σ) :
    Watched (Run σ) :=
  if workflow.enabled then
    workflow.toGraph.watchedRun registry options values caller? event caller
  else return .idle { workflow := workflow.id } caller

/-! ## Both are the same -/

namespace Run

variable (registry : Registry) (setting : Setting σ)

theorem isPassedOn_announce (state : State σ) (notice : Notice) :
    registry.IsPassedOn (state.announce registry notice) (state.tell notice)
      state.notices (state.tell notice).notices := by
  refine ⟨[notice], rfl, ?_⟩
  rw [State.announce, Registry.passOn, Registry.emitAll]
  rcases registry.emit notice.occasion.name notice.payload with ⟨deliveries, fault | fault⟩
  · simp [Registry.emitAll]
  · rfl

/-- A step tells of its node twice. -/
theorem isPassedOn_step (node : Node) (state : State σ) :
    registry.IsPassedOn (watchedStep registry setting node state) (step setting node state)
      state.notices (step setting node state).2.notices := by
  refine Registry.IsPassedOn.bind (isPassedOn_announce registry _ _) ?_
  refine Registry.IsPassedOn.bind (isPassedOn_announce registry _ _) ?_
  exact .pure _

theorem isPassedOn_abort (state : State σ) (event : Event) :
    registry.IsPassedOn (state.watchedAbort registry event) (false, state.abort event)
      state.notices (state.abort event).notices :=
  (isPassedOn_announce registry (state.record event) _).bind (.pure _)

/-- A chain tells what its steps tell, and of the error in which it ends. -/
theorem isPassedOn_chain (left : Nat) (node : Node) (state : State σ) :
    registry.IsPassedOn (watchedChain registry setting left node state)
      (chain setting left node state) state.notices (chain setting left node state).2.notices := by
  -- on what is left of the budget, with a case for each way in which a chain goes on
  induction left generalizing node state with
  | zero => exact isPassedOn_abort registry state _
  | succ left ih =>
    have hstep := isPassedOn_step registry setting node state
    rw [watchedChain]
    rcases hs : step setting node state with ⟨effect | fault, state'⟩
    · rw [hs] at hstep
      refine hstep.bind ?_
      rcases he : next? setting.graph node effect with _ | id
      · rw [chain_ended hs he]
        simp only [he]
        exact .pure _
      · rcases ht : setting.graph.node? id with _ | target
        · rw [chain_lost hs he ht]
          simp only [he, ht]
          exact isPassedOn_abort registry (state'.apply effect) _
        · rw [chain_next hs he ht]
          simp only [he, ht]
          exact ih target (state'.apply effect)
    · rw [hs] at hstep
      rw [chain_failed hs]
      exact hstep.bind ((isPassedOn_announce registry state' _).bind (.pure _))

theorem isPassedOn_chains (starts : List Node) (state : State σ) :
    registry.IsPassedOn (watchedChains registry setting starts state)
      (chains setting starts state) state.notices (chains setting starts state).notices := by
  induction starts generalizing state with
  | nil => exact .pure state
  | cons start rest ih =>
    have hchain := isPassedOn_chain registry setting (setting.budget - state.steps) start state
    rw [watchedChains]
    rcases hc : chain setting (setting.budget - state.steps) start state with ⟨_ | _, state'⟩
    · rw [hc] at hchain
      rw [chains_halted hc]
      exact hchain.bind (.pure _)
    · rw [hc] at hchain
      rw [chains_next hc]
      exact hchain.bind (ih state')

/-- A run from start nodes that is watched passes on what the run tells. -/
theorem watchedOfGraph_eq (values : Context) (starts : List Node) (caller : σ) :
    watchedOfGraph registry setting values starts caller
      = registry.passOn (ofGraph setting values starts caller).notices
        (ofGraph setting values starts caller) := by
  have hpassed : registry.IsPassedOn (watchedOfGraph registry setting values starts caller)
      (ofGraph setting values starts caller) []
      (ofGraph setting values starts caller).notices := by
    refine Registry.IsPassedOn.bind (isPassedOn_announce registry _ _) ?_
    refine Registry.IsPassedOn.bind (isPassedOn_chains registry setting starts _) ?_
    refine Registry.IsPassedOn.bind (isPassedOn_announce registry _ _) ?_
    exact .pure _
  obtain ⟨told, hnotices, hwatched⟩ := hpassed
  rw [hwatched, hnotices, List.nil_append]

end Run

theorem Graph.watchedRun_eq (registry : Registry) (graph : Graph) (options : RunOptions)
    (values : Context) (caller? : Option (Caller σ)) (event : Option FormEvent) (caller : σ) :
    graph.watchedRun registry options values caller? event caller
      = registry.passOn (graph.run options values caller? event caller).notices
        (graph.run options values caller? event caller) := by
  rw [watchedRun, run]
  split
  · rfl
  · exact Run.watchedOfGraph_eq registry (options.setting graph caller?) values _ caller

/-- A workflow that is watched passes on what its run tells. -/
theorem Workflow.watchedRun_eq (registry : Registry) (workflow : Workflow) (options : RunOptions)
    (values : Context) (caller? : Option (Caller σ)) (event : Option FormEvent) (caller : σ) :
    workflow.watchedRun registry options values caller? event caller
      = registry.passOn (workflow.run options values caller? event caller).notices
        (workflow.run options values caller? event caller) := by
  rw [watchedRun, run]
  split
  · exact workflow.toGraph.watchedRun_eq registry options values caller? event caller
  · rfl

end FormAutomation
