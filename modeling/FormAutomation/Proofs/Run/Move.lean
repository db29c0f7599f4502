import FormAutomation.Proofs.Run.Trail
import Mathlib.Logic.Relation

/-!
# How a run moves

A run goes from state to state.  It *advances* when a node of the graph is executed
with success and what it did is put into effect; it *halts* when a node fails, or when
it has to stop at a node that it cannot execute.  Every run advances as long as it can
and halts at most once, at the end.

So what is true of a whole run is shown of one move at a time: what holds where the run
starts and is kept whenever it advances holds where it ends, if halting keeps it too.
-/

namespace FormAutomation

open Relation

variable {σ : Type}

namespace Run

variable {setting : Setting σ}

/-! ## Moves -/

/-- A node is executed with success, and what it did is put into effect. -/
inductive Advances (setting : Setting σ) : State σ → State σ → Prop where
  /-- the step of a node of the graph -/
  | step {node : Node} {effect : Effect} {state state' : State σ}
      (hn : setting.graph.node? node.id = some node)
      (hs : step setting node state = (.success effect, state')) :
      Advances setting state (state'.apply effect)

/-- An error ends the run. -/
inductive Halts (setting : Setting σ) : State σ → State σ → Prop where
  /-- a node of the graph fails -/
  | failed {node : Node} {fault : NodeFault} {state state' : State σ}
      (hn : setting.graph.node? node.id = some node)
      (hs : step setting node state = (.failure fault, state')) :
      Halts setting state (state'.tell
        (.onError state'.result.workflow (.executed node (.failure fault)) state'.steps))
  /-- the next node cannot be executed -/
  | aborted {event : Event} {state : State σ} (hf : event.isFatal = true) :
      Halts setting state (state.abort event)

/-! ## Runs move -/

/-- A chain advances, and halts unless the next start node has its turn. -/
theorem chain_moves (left : Nat) {node : Node} (state : State σ)
    (hn : setting.graph.node? node.id = some node) :
    ∃ live, ReflTransGen (Advances setting) state live
      ∧ (chain setting left node state = (true, live)
        ∨ ∃ final, chain setting left node state = (false, final) ∧ Halts setting live final) := by
  induction left generalizing node state with
  | zero => exact ⟨state, .refl, .inr ⟨_, chain_exhausted, .aborted rfl⟩⟩
  | succ left ih =>
    rcases hs : step setting node state with ⟨effect | fault, state'⟩
    · -- a success is put into effect even if the chain is lost right after it
      have hadvance : Advances setting state (state'.apply effect) := .step hn hs
      rcases he : next? setting.graph node effect with _ | id
      · exact ⟨_, .single hadvance, .inl (chain_ended hs he)⟩
      · rcases ht : setting.graph.node? id with _ | target
        · exact ⟨_, .single hadvance, .inr ⟨_, chain_lost hs he ht, .aborted rfl⟩⟩
        · have hid : target.id = id := (Graph.node?_eq_some_iff.1 ht).2
          obtain ⟨live, hlive, hend⟩ := ih (state'.apply effect) (hid ▸ ht)
          rw [chain_next hs he ht]
          exact ⟨live, hlive.head hadvance, hend⟩
    · exact ⟨state, .refl, .inr ⟨_, chain_failed hs, .failed hn hs⟩⟩

/-- A chain after which the next start node has its turn has advanced. -/
theorem advances_of_chain {left : Nat} {node : Node} {state live : State σ}
    (hn : setting.graph.node? node.id = some node)
    (hc : chain setting left node state = (true, live)) :
    ReflTransGen (Advances setting) state live := by
  obtain ⟨live', hlive, hend | ⟨final, hend, -⟩⟩ := chain_moves left state hn
  · rw [hc] at hend
    obtain ⟨-, rfl⟩ := Prod.mk.inj hend
    exact hlive
  · rw [hc] at hend
    cases hend

/-- The chains of start nodes advance, and may halt. -/
theorem chains_moves (starts : List Node) (state : State σ)
    (hn : ∀ start ∈ starts, setting.graph.node? start.id = some start) :
    ∃ live, ReflTransGen (Advances setting) state live
      ∧ (chains setting starts state = live ∨ Halts setting live (chains setting starts state)) := by
  induction starts generalizing state with
  | nil => exact ⟨state, .refl, .inl rfl⟩
  | cons start rest ih =>
    obtain ⟨live, hlive, hend⟩ :=
      chain_moves (setting.budget - state.steps) state (hn start List.mem_cons_self)
    rcases hend with hend | ⟨final, hend, hhalt⟩
    · rw [chains_next hend]
      obtain ⟨live', hlive', hend'⟩ := ih live fun other ho => hn other (List.mem_cons_of_mem _ ho)
      exact ⟨live', hlive.trans hlive', hend'⟩
    · rw [chains_halted hend]
      exact ⟨live, hlive, .inr hhalt⟩

/-- What advancing keeps is kept on the way. -/
theorem kept_of_advances {P : State σ → Prop} {state live : State σ}
    (h : ReflTransGen (Advances setting) state live)
    (hkeep : ∀ state state', Advances setting state state' → P state → P state')
    (hstart : P state) : P live := by
  induction h with
  | refl => exact hstart
  | tail _ hadvance ih => exact hkeep _ _ hadvance ih

/-- What advancing and halting keep holds at the end if it holds at the start. -/
theorem kept_by_chains {P : State σ → Prop}
    (hkeep : ∀ state state', Advances setting state state' → P state → P state')
    (hhalt : ∀ state state', Halts setting state state' → P state → P state')
    (starts : List Node) (state : State σ)
    (hn : ∀ start ∈ starts, setting.graph.node? start.id = some start) (hstart : P state) :
    P (chains setting starts state) := by
  obtain ⟨live, hlive, hend⟩ := chains_moves starts state hn
  have hholds := kept_of_advances hlive hkeep hstart
  rcases hend with hend | hend
  · rw [hend]
    exact hholds
  · exact hhalt _ _ hend hholds

/-! ## As long as a run goes on -/

/-- All that was recorded are successes, one for each step. -/
structure State.IsLive (state : State σ) : Prop where
  /-- an event for each step -/
  length : state.result.events.length = state.steps
  /-- all of them successes -/
  succeeded : ∀ event ∈ state.result.events, event.succeeded = true

theorem isLive_of_advances {state state' : State σ} (h : Advances setting state state')
    (hl : state.IsLive) : state'.IsLive := by
  obtain ⟨hn, hs⟩ := h
  refine ⟨?_, ?_⟩
  · rw [State.apply_events, State.apply_steps, events_of_step hs, steps_of_step hs,
      List.length_append, hl.length]
    rfl
  · intro event hevent
    rw [State.apply_events, events_of_step hs] at hevent
    rcases List.mem_append.1 hevent with hevent | hevent
    · exact hl.succeeded event hevent
    · obtain rfl := List.mem_singleton.1 hevent
      rfl

/-! ## Runs from start nodes -/

/-- Where the run of a graph starts. -/
def initial (setting : Setting σ) (values : Context) (starts : List Node) (caller : σ) :
    State σ :=
  { steps := 0
    result := { workflow := setting.graph.id, context := values }
    requests := []
    notices := [.beforeRun setting.graph.id (starts.map (·.id)) values]
    caller }

theorem isLive_initial (setting : Setting σ) (values : Context) (starts : List Node)
    (caller : σ) : (initial setting values starts caller).IsLive :=
  ⟨rfl, fun _ h => absurd h List.not_mem_nil⟩

theorem ofGraph_result (setting : Setting σ) (values : Context) (starts : List Node)
    (caller : σ) :
    (ofGraph setting values starts caller).result
      = (chains setting starts (initial setting values starts caller)).result := rfl

theorem ofGraph_requests (setting : Setting σ) (values : Context) (starts : List Node)
    (caller : σ) :
    (ofGraph setting values starts caller).requests
      = (chains setting starts (initial setting values starts caller)).requests := rfl

theorem ofGraph_caller (setting : Setting σ) (values : Context) (starts : List Node)
    (caller : σ) :
    (ofGraph setting values starts caller).caller
      = (chains setting starts (initial setting values starts caller)).caller := rfl

/-- The end of a run is the last that is told of it. -/
theorem ofGraph_notices (setting : Setting σ) (values : Context) (starts : List Node)
    (caller : σ) :
    let result := (ofGraph setting values starts caller).result
    (ofGraph setting values starts caller).notices
      = (chains setting starts (initial setting values starts caller)).notices
        ++ [.afterRun setting.graph.id result.status result.visited result.toValue] := rfl

end Run

/-! ## Kinds of runs -/

/-- What stays the same during the run of a graph with these options. -/
def RunOptions.setting (options : RunOptions) (graph : Graph) (caller? : Option (Caller σ)) :
    Run.Setting σ :=
  { graph, caller?, budget := options.budget, timeout := options.timeout }

/-- What is true of a run in which nothing happens, and of the run from the start nodes,
is true of the run of a graph. -/
theorem Graph.run_cases {P : Run σ → Prop} (graph : Graph) (options : RunOptions)
    (values : Context) (caller? : Option (Caller σ)) (event : Option FormEvent) (caller : σ)
    (hidle : ∀ rejected, P (Run.idle { workflow := graph.id, rejected } caller))
    (hrun : P (Run.ofGraph (options.setting graph caller?) values (graph.startNodes event)
      caller)) :
    P (graph.run options values caller? event caller) := by
  unfold Graph.run
  split
  · exact hidle _
  · exact hrun

/-- The same of the run of a workflow. -/
theorem Workflow.run_cases {P : Run σ → Prop} (workflow : Workflow) (options : RunOptions)
    (values : Context) (caller? : Option (Caller σ)) (event : Option FormEvent) (caller : σ)
    (hidle : ∀ rejected, P (Run.idle { workflow := workflow.id, rejected } caller))
    (hrun : P (Run.ofGraph (options.setting workflow.toGraph caller?) values
      (workflow.startNodes event) caller)) :
    P (workflow.run options values caller? event caller) := by
  unfold Workflow.run
  split
  · exact workflow.toGraph.run_cases options values caller? event caller hidle hrun
  · exact hidle _

end FormAutomation
