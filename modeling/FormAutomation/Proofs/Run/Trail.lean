import FormAutomation.Proofs.Run.Step
import Mathlib.Data.List.Chain

/-!
# The trail of a run

What a run records is determined, apart from the outcomes of its nodes, by the
graph and the budget.  A *trail* is what one chain records: where it goes from an
event is read off the event and the edges alone, and it ends in one of four ways.
The trails of a run are those of its start nodes, one after the other, until one
of them ends in an error.

Here it is shown that runs leave trails; what a trail looks like as a list is
derived from that without looking at a run again.
-/

namespace FormAutomation

/-! ## Where a run goes from an event -/

namespace Event

/-- The node that the event is about, if there is one. -/
def node? : Event → Option Node
  | .executed node _ => some node
  | .exhausted node _ => some node
  | .lost _ => none

/-- The port by which the node of the event is left: that of the branch that was
recorded if the node is a condition. -/
def port? (event : Event) : Option Port :=
  if event.kind? = some .condition then event.branch?.map Port.ofBranch else some .out

end Event

namespace Graph

/-- The first edge, in the author's order, by which the node of an event is
left. -/
def edgeAfter? (graph : Graph) (event : Event) : Option Edge :=
  event.port?.bind fun port =>
    graph.edges.find? fun edge => edge.source == event.nodeId && edge.port == port

theorem edge_of_edgeAfter? {graph : Graph} {event : Event} {edge : Edge}
    (h : graph.edgeAfter? event = some edge) :
    edge ∈ graph.edges ∧ edge.source = event.nodeId := by
  obtain ⟨port, -, hfind⟩ := Option.bind_eq_some_iff.1 h
  have hmatch := List.find?_some hfind
  simp only [Bool.and_eq_true, beq_iff_eq] at hmatch
  exact ⟨List.mem_of_find?_eq_some hfind, hmatch.1⟩

/-- What one chain records from a node on when so many steps are left. -/
inductive Trail (graph : Graph) (budget : Nat) : Nat → Node → List Event → Prop where
  /-- no step is left -/
  | exhausted {node : Node} (hn : graph.node? node.id = some node) :
      Trail graph budget 0 node [.exhausted node budget]
  /-- the node fails -/
  | failed {left : Nat} {node : Node} {fault : NodeFault}
      (hn : graph.node? node.id = some node) :
      Trail graph budget (left + 1) node [.executed node (.failure fault)]
  /-- no edge goes on -/
  | ended {left : Nat} {node : Node} {effect : Effect} (hn : graph.node? node.id = some node)
      (he : graph.edgeAfter? (.executed node (.success effect)) = none) :
      Trail graph budget (left + 1) node [.executed node (.success effect)]
  /-- the edge leads to a node that does not exist -/
  | lost {left : Nat} {node : Node} {effect : Effect} {edge : Edge}
      (hn : graph.node? node.id = some node)
      (he : graph.edgeAfter? (.executed node (.success effect)) = some edge)
      (ht : graph.node? edge.target = none) :
      Trail graph budget (left + 1) node
        [.executed node (.success effect), .lost edge.target]
  /-- the edge leads to the next node -/
  | next {left : Nat} {node : Node} {effect : Effect} {edge : Edge} {target : Node}
      {trail : List Event} (hn : graph.node? node.id = some node)
      (he : graph.edgeAfter? (.executed node (.success effect)) = some edge)
      (ht : graph.node? edge.target = some target) (hr : Trail graph budget left target trail) :
      Trail graph budget (left + 1) node (.executed node (.success effect) :: trail)

/-- What the chains of start nodes record, of which each has the steps that those
before it left. -/
inductive Trails (graph : Graph) (budget : Nat) : Nat → List Node → List (List Event) → Prop where
  /-- no start is left -/
  | nil {left : Nat} : Trails graph budget left [] []
  /-- a chain ends in an error, and so does the run -/
  | halted {left : Nat} {start : Node} {rest : List Node} {trail : List Event}
      (ht : Trail graph budget left start trail) (he : ∃ event ∈ trail, event.succeeded = false) :
      Trails graph budget left (start :: rest) [trail]
  /-- a chain ends well, and the next start has its turn -/
  | next {left : Nat} {start : Node} {rest : List Node} {trail : List Event}
      {trails : List (List Event)} (ht : Trail graph budget left start trail)
      (hs : ∀ event ∈ trail, event.succeeded = true)
      (hr : Trails graph budget (left - trail.length) rest trails) :
      Trails graph budget left (start :: rest) (trail :: trails)

/-- Each of the trails is that of a start node. -/
theorem Trails.exists_start {graph : Graph} {budget left : Nat} {starts : List Node}
    {trails : List (List Event)} (h : graph.Trails budget left starts trails) :
    ∀ trail ∈ trails, ∃ start ∈ starts, ∃ left, graph.Trail budget left start trail := by
  induction h with
  | nil => exact fun _ hmem => absurd hmem List.not_mem_nil
  | halted ht he =>
    intro trail hmem
    obtain rfl := List.mem_singleton.1 hmem
    exact ⟨_, List.mem_cons_self, _, ht⟩
  | next ht hs hr ih =>
    intro trail hmem
    rcases List.mem_cons.1 hmem with rfl | hmem
    · exact ⟨_, List.mem_cons_self, _, ht⟩
    · obtain ⟨start, hstart, left, htrail⟩ := ih trail hmem
      exact ⟨start, List.mem_cons_of_mem _ hstart, left, htrail⟩

end Graph

/-! ## Runs leave trails -/

namespace Run

variable {σ : Type}

/-- The edge that is followed can be read off the event. -/
theorem next?_eq (graph : Graph) {node : Node} {effect : Effect}
    (h : effect.branch.isSome = (node.kind == .condition)) :
    next? graph node effect
      = (graph.edgeAfter? (.executed node (.success effect))).map (·.target) := by
  have hport : (Event.executed node (.success effect)).port? = some (portAfter effect) := by
    unfold Event.port? portAfter
    simp only [Event.kind?, Event.branch?, Option.some.injEq]
    rcases hb : effect.branch with _ | result
    · rw [hb] at h
      have hk : node.kind ≠ .condition := by simpa using h.symm
      rw [if_neg hk]
    · rw [hb] at h
      have hk : node.kind = .condition := by simpa using h.symm
      rw [if_pos hk]
      rfl
  rw [Graph.edgeAfter?, hport, Option.bind_some, next?, Graph.outgoingOn, List.head?_filter]
  rfl

/-- A chain leaves a trail, and goes on to the next start exactly if the trail has
no error. -/
theorem chain_trail (setting : Setting σ) (left : Nat) {node : Node} (state : State σ)
    (hn : setting.graph.node? node.id = some node) :
    ∃ trail, setting.graph.Trail setting.budget left node trail
      ∧ (chain setting left node state).2.result.events = state.result.events ++ trail
      ∧ (((chain setting left node state).1 = true
            ∧ (∀ event ∈ trail, event.succeeded = true)
            ∧ (chain setting left node state).2.steps = state.steps + trail.length)
          ∨ ((chain setting left node state).1 = false
            ∧ ∃ event ∈ trail, event.succeeded = false)) := by
  -- the branch is what ties the edge that is followed to the event that was recorded
  induction left generalizing node state with
  | zero =>
    refine ⟨_, .exhausted hn, rfl, .inr ⟨rfl, _, List.mem_singleton_self _, rfl⟩⟩
  | succ left ih =>
    rcases hs : step setting node state with ⟨effect | fault, state'⟩
    · have hevents := events_of_step hs
      have hsteps := steps_of_step hs
      have hnext := next?_eq setting.graph (isSome_branch_of_step hs)
      rcases he : setting.graph.edgeAfter? (.executed node (.success effect)) with _ | edge
      · rw [he] at hnext
        rw [chain_ended hs hnext]
        refine ⟨_, .ended hn he, hevents, .inl ⟨rfl, ?_, hsteps⟩⟩
        rintro event hevent
        obtain rfl := List.mem_singleton.1 hevent
        rfl
      · rw [he] at hnext
        rcases ht : setting.graph.node? edge.target with _ | target
        · rw [chain_lost hs hnext ht]
          refine ⟨_, .lost hn he ht, ?_, .inr ⟨rfl, .lost edge.target, by simp, rfl⟩⟩
          simp [hevents]
        · rw [chain_next hs hnext ht]
          have hid : target.id = edge.target := (Graph.node?_eq_some_iff.1 ht).2
          obtain ⟨trail, htrail, htold, hend⟩ := ih (state'.apply effect) (hid ▸ ht)
          refine ⟨_, .next hn he ht htrail, ?_, ?_⟩
          · rw [htold, State.apply_events, hevents, List.append_assoc]
            rfl
          · rcases hend with ⟨hgo, hall, hcount⟩ | ⟨hstop, event, hevent, herror⟩
            · refine .inl ⟨hgo, ?_, ?_⟩
              · rintro event hevent
                rcases List.mem_cons.1 hevent with rfl | hevent
                · rfl
                · exact hall event hevent
              · rw [hcount, State.apply_steps, hsteps, List.length_cons]
                omega
            · exact .inr ⟨hstop, event, List.mem_cons_of_mem _ hevent, herror⟩
    · have hevents := events_of_step hs
      rw [chain_failed hs]
      exact ⟨_, .failed hn, hevents, .inr ⟨rfl, _, List.mem_singleton_self _, rfl⟩⟩

/-- The chains of the start nodes leave trails. -/
theorem chains_trails (setting : Setting σ) (starts : List Node) (state : State σ)
    (hn : ∀ start ∈ starts, setting.graph.node? start.id = some start) :
    ∃ trails, setting.graph.Trails setting.budget (setting.budget - state.steps) starts trails
      ∧ (chains setting starts state).result.events = state.result.events ++ trails.flatten := by
  induction starts generalizing state with
  | nil => exact ⟨[], .nil, by simp [chains]⟩
  | cons start rest ih =>
    obtain ⟨trail, htrail, hevents, hend⟩ :=
      chain_trail setting (setting.budget - state.steps) state (hn start List.mem_cons_self)
    rcases hc : chain setting (setting.budget - state.steps) start state with ⟨goesOn, state'⟩
    rw [hc] at hevents hend
    rcases hend with ⟨rfl, hall, hsteps⟩ | ⟨rfl, herror⟩
    · obtain ⟨trails, htrails, htold⟩ := ih state' fun r hr => hn r (List.mem_cons_of_mem _ hr)
      have hleft : setting.budget - state'.steps
          = setting.budget - state.steps - trail.length := by
        rw [hsteps]
        omega
      rw [hleft] at htrails
      refine ⟨trail :: trails, .next htrail hall htrails, ?_⟩
      simp only [chains, hc]
      rw [htold, hevents, List.flatten_cons, List.append_assoc]
    · refine ⟨[trail], .halted htrail herror, ?_⟩
      simp only [chains, hc]
      rw [hevents, List.flatten_singleton]

end Run

/-! ## Whole runs -/

namespace Graph

variable {σ : Type} {graph : Graph} {options : RunOptions}

/-- An event starts a run at nodes where it may start. -/
theorem mem_starts_of_mem_startNodes {event : Option FormEvent} {node : Node}
    (h : node ∈ graph.startNodes event) : node ∈ graph.starts := by
  cases event with
  | none => exact h
  | some event =>
    by_cases htriggers : graph.triggers.isEmpty = true
    · rw [starts, if_pos htriggers]
      simpa only [startNodes, if_pos htriggers] using h
    · rw [starts, if_neg htriggers]
      simp only [startNodes, if_neg htriggers] at h
      exact (List.mem_filter.1 h).1

/-- A run starts at nodes of the graph. -/
theorem mem_nodes_of_mem_startNodes {event : Option FormEvent} {node : Node}
    (h : node ∈ graph.startNodes event) : node ∈ graph.nodes :=
  mem_nodes_of_mem_starts (mem_starts_of_mem_startNodes h)

/-- A graph with nodes has a node to start at. -/
theorem startNodes_none_ne_nil (h : graph.nodes ≠ []) : graph.startNodes none ≠ [] := by
  simp only [startNodes, starts, fallbackStarts]
  split
  · split
    · simpa using h
    · next hroots => simpa using hroots
  · next htriggers => simpa using htriggers

/-- A graph that the gate lets through is run from its start nodes. -/
theorem run_eq_ofGraph (h : options.gate = true → graph.isValid = true) (values : Context)
    (caller? : Option (Caller σ)) (event : Option FormEvent) (caller : σ) :
    graph.run options values caller? event caller
      = Run.ofGraph { graph, caller?, budget := options.budget, timeout := options.timeout }
          values (graph.startNodes event) caller := by
  have hgate : ¬ (options.gate && !graph.isValid) = true := by
    cases hg : options.gate
    · simp
    · simp [h hg]
  rw [run, if_neg hgate]

/-- A graph that the gate does not let through is not run at all. -/
theorem run_eq_idle (hg : options.gate = true) (hv : graph.isValid = false) (values : Context)
    (caller? : Option (Caller σ)) (event : Option FormEvent) (caller : σ) :
    graph.run options values caller? event caller
      = Run.idle { workflow := graph.id, rejected := graph.issues } caller := by
  rw [run, if_pos (by simp [hg, hv])]

/-- A run that the gate lets through leaves trails from its start nodes. -/
theorem run_trails (h : options.gate = true → graph.isValid = true) (values : Context)
    (caller? : Option (Caller σ)) (event : Option FormEvent) (caller : σ) :
    ∃ trails, graph.Trails options.budget options.budget (graph.startNodes event) trails
      ∧ (graph.run options values caller? event caller).result.events = trails.flatten := by
  obtain ⟨trails, htrails, hevents⟩ := Run.chains_trails
    { graph, caller?, budget := options.budget, timeout := options.timeout }
    (graph.startNodes event)
    { steps := 0
      result := { workflow := graph.id, context := values }
      requests := []
      notices := [.beforeRun graph.id ((graph.startNodes event).map (·.id)) values]
      caller }
    fun start hs => node?_of_mem (mem_nodes_of_mem_startNodes hs)
  refine ⟨trails, htrails, ?_⟩
  rw [run_eq_ofGraph h]
  exact hevents

/-- The run of a graph records nothing, or it leaves trails from the start nodes. -/
theorem run_nil_or_trails (graph : Graph) (options : RunOptions) (values : Context)
    (caller? : Option (Caller σ)) (event : Option FormEvent) (caller : σ) :
    (graph.run options values caller? event caller).result.events = []
      ∨ ∃ trails, graph.Trails options.budget options.budget (graph.startNodes event) trails
        ∧ (graph.run options values caller? event caller).result.events = trails.flatten := by
  by_cases h : options.gate = true → graph.isValid = true
  · exact .inr (run_trails h values caller? event caller)
  · rw [Classical.not_imp, Bool.not_eq_true] at h
    refine .inl ?_
    rw [run_eq_idle h.1 h.2]
    rfl

/-- What a run records is on the trail of one of its start nodes. -/
theorem exists_trail_of_mem {values : Context} {caller? : Option (Caller σ)}
    {event : Option FormEvent} {caller : σ} {entry : Event}
    (h : entry ∈ (graph.run options values caller? event caller).result.events) :
    ∃ start ∈ graph.startNodes event, ∃ left trail,
      graph.Trail options.budget left start trail ∧ entry ∈ trail := by
  rcases graph.run_nil_or_trails options values caller? event caller with hnil | ⟨trails, ht, he⟩
  · rw [hnil] at h
    exact absurd h List.not_mem_nil
  · rw [he] at h
    obtain ⟨trail, htrail, hentry⟩ := List.mem_flatten.1 h
    obtain ⟨start, hstart, left, hfrom⟩ := ht.exists_start trail htrail
    exact ⟨start, hstart, left, trail, hfrom, hentry⟩

end Graph

namespace Workflow

variable {σ : Type} {workflow : Workflow}

/-- An enabled workflow is run as its graph is. -/
theorem run_of_enabled (h : workflow.enabled = true) (options : RunOptions) (values : Context)
    (caller? : Option (Caller σ)) (event : Option FormEvent) (caller : σ) :
    workflow.run options values caller? event caller
      = workflow.toGraph.run options values caller? event caller := by
  rw [run, if_pos h]

/-- A workflow that is not enabled is not run at all. -/
theorem run_of_disabled (h : workflow.enabled = false) (options : RunOptions) (values : Context)
    (caller? : Option (Caller σ)) (event : Option FormEvent) (caller : σ) :
    workflow.run options values caller? event caller
      = Run.idle { workflow := workflow.id } caller := by
  rw [run, if_neg (by simp [h])]

/-- The run of a workflow records nothing, or it leaves trails from the start
nodes. -/
theorem run_nil_or_trails (workflow : Workflow) (options : RunOptions) (values : Context)
    (caller? : Option (Caller σ)) (event : Option FormEvent) (caller : σ) :
    (workflow.run options values caller? event caller).result.events = []
      ∨ ∃ trails,
        workflow.toGraph.Trails options.budget options.budget (workflow.startNodes event) trails
          ∧ (workflow.run options values caller? event caller).result.events = trails.flatten := by
  rcases h : workflow.enabled with _ | _
  · refine .inl ?_
    rw [run_of_disabled h]
    rfl
  · rw [run_of_enabled h]
    exact workflow.toGraph.run_nil_or_trails options values caller? event caller

end Workflow

end FormAutomation
