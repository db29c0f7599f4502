import FormAutomation.Proofs.Run.Chain
import FormAutomation.Proofs.Run.Recap
import FormAutomation.Proofs.Run.Shape

/-!
# Runs with a larger budget

A larger budget changes nothing about a run that got by with the smaller one.  A run
that did not is cut off: it has executed as many nodes as its budget allows, the same
that the run with the larger budget executes first, and stops at the node that the
other one executes next.  So what it leaves behind is what the other one has at that
point, and whoever answers its requests was asked nothing else.

The two runs go side by side as long as the smaller budget lasts.  They share all
start nodes, so the budget may be spent in the middle of a chain or between two.
-/

namespace FormAutomation

open Relation

variable {σ : Type}

/-- How many nodes were executed. -/
def RunResult.executed (result : RunResult) : Nat :=
  result.events.countP (!·.isFatal)

/-- The options with a larger budget. -/
def RunOptions.raised (options : RunOptions) (budget : Nat) (h : options.budget ≤ budget) :
    RunOptions :=
  { options with budget, budget_pos := Nat.lt_of_lt_of_le options.budget_pos h }

/-- A run was cut off by its budget, while another one went on. -/
structure Run.IsCutOff (graph : Graph) (budget : Nat) (short long : Run σ) : Prop where
  /-- it executed what the other one executed first, and it names what the other one
  executed next -/
  events : ∃ node outcome, long.result.events[budget]? = some (.executed node outcome)
    ∧ short.result.events = long.result.events.take budget ++ [.exhausted node budget]
  /-- all of that are nodes that were executed -/
  executed : ∀ event ∈ long.result.events.take budget, event.isFatal = false
  /-- it asked what the other one asked first -/
  requests : short.requests <+: long.requests
  /-- it set on the form what the other one had set then -/
  recap : ∀ context,
    short.result.recap = Recap.ofEvents graph context (long.result.events.take budget)

/-- Two runs agree as far as the smaller of their budgets goes. -/
structure Run.AgreesUpTo (graph : Graph) (budget : Nat) (short long : Run σ) : Prop where
  /-- the smaller one was enough -/
  same : long.result.executed ≤ budget → short = long
  /-- the smaller one was not enough -/
  cutOff : budget < long.result.executed → short.IsCutOff graph budget long

namespace Run

variable {setting : Setting σ} {node : Node}

/-! ## What a run has recorded stays -/

namespace State

/-- A later state of the same run. -/
structure Extends (state state' : State σ) : Prop where
  /-- events are added at the end -/
  events : state.result.events <+: state'.result.events
  /-- and so are requests -/
  requests : state.requests <+: state'.requests

theorem Extends.refl (state : State σ) : state.Extends state :=
  ⟨List.prefix_rfl, List.prefix_rfl⟩

theorem Extends.trans {a b c : State σ} (h : a.Extends b) (h' : b.Extends c) : a.Extends c :=
  ⟨h.events.trans h'.events, h.requests.trans h'.requests⟩

theorem extends_abort (state : State σ) (event : Event) : state.Extends (state.abort event) :=
  ⟨List.prefix_append _ _, List.prefix_rfl⟩

end State

theorem extends_of_step {state state' : State σ} {outcome : Outcome}
    (hs : step setting node state = (outcome, state')) : state.Extends state' := by
  refine ⟨?_, ?_⟩
  · rw [events_of_step hs]
    exact List.prefix_append _ _
  · rw [requests_of_step hs]
    exact List.prefix_append _ _

theorem extends_of_advances {state state' : State σ} (h : Advances setting state state') :
    state.Extends state' := by
  obtain ⟨hn, hs⟩ := h
  have hstep := extends_of_step hs
  exact ⟨hstep.events, hstep.requests⟩

theorem extends_of_halts {state state' : State σ} (h : Halts setting state state') :
    state.Extends state' := by
  cases h with
  | failed hn hs =>
    have hstep := extends_of_step hs
    exact ⟨hstep.events, hstep.requests⟩
  | aborted hf => exact state.extends_abort _

/-- What is recorded before the chain of a node goes on is there when it ends. -/
theorem extends_chain (left : Nat) (state : State σ)
    (hn : setting.graph.node? node.id = some node) :
    state.Extends (chain setting left node state).2 := by
  obtain ⟨live, hlive, hend⟩ := chain_moves left state hn
  have hextends : state.Extends live := kept_of_advances (P := state.Extends) hlive
    (fun _ _ h hk => hk.trans (extends_of_advances h)) (State.Extends.refl state)
  rcases hend with hend | ⟨final, hend, hhalt⟩
  · rw [hend]
    exact hextends
  · rw [hend]
    exact hextends.trans (extends_of_halts hhalt)

theorem extends_chains (starts : List Node) (state : State σ)
    (hn : ∀ start ∈ starts, setting.graph.node? start.id = some start) :
    state.Extends (chains setting starts state) :=
  kept_by_chains (P := state.Extends) (fun _ _ h hk => hk.trans (extends_of_advances h))
    (fun _ _ h hk => hk.trans (extends_of_halts h)) starts state hn (State.Extends.refl state)

/-- A chain with a step left begins with the step of its node. -/
theorem extends_chain_of_step {left : Nat} {state state' : State σ} {outcome : Outcome}
    (hs : step setting node state = (outcome, state')) :
    state'.Extends (chain setting (left + 1) node state).2 := by
  rcases outcome with effect | fault
  · have happly : state'.Extends (state'.apply effect) := ⟨List.prefix_rfl, List.prefix_rfl⟩
    rcases he : next? setting.graph node effect with _ | id
    · rw [chain_ended hs he]
      exact happly
    · rcases ht : setting.graph.node? id with _ | target
      · rw [chain_lost hs he ht]
        exact happly.trans (State.extends_abort _ _)
      · rw [chain_next hs he ht]
        have hid : target.id = id := (Graph.node?_eq_some_iff.1 ht).2
        exact happly.trans (extends_chain left _ (hid ▸ ht))
  · rw [chain_failed hs]
    exact ⟨List.prefix_rfl, List.prefix_rfl⟩

/-! ## Two budgets -/

/-- The setting with another budget. -/
def Setting.withBudget (setting : Setting σ) (budget : Nat) : Setting σ :=
  { setting with budget }

/-- A step does not look at the budget. -/
theorem step_withBudget (setting : Setting σ) (budget : Nat) (node : Node) (state : State σ) :
    step (setting.withBudget budget) node state = step setting node state := rfl

/-- With more steps a chain does the same, or it goes on where the other one is cut
off. -/
theorem chain_withBudget (budget left extra : Nat) (state : State σ)
    (hn : setting.graph.node? node.id = some node) :
    (chain (setting.withBudget budget) (left + extra) node state = chain setting left node state
        ∧ (chain setting left node state).2.steps ≤ state.steps + left)
      ∨ ∃ next live, setting.graph.node? next.id = some next
        ∧ ReflTransGen (Advances setting) state live ∧ live.steps = state.steps + left
        ∧ chain setting left node state = (false, live.abort (.exhausted next setting.budget))
        ∧ chain (setting.withBudget budget) (left + extra) node state
          = chain (setting.withBudget budget) extra next live := by
  induction left generalizing node state with
  | zero =>
    -- cut off before the first step
    refine .inr ⟨node, state, hn, .refl, rfl, chain_exhausted, ?_⟩
    rw [Nat.zero_add]
  | succ left ih =>
    rw [Nat.add_right_comm]
    rcases hs : step setting node state with ⟨effect | fault, state'⟩
    · have hs' := (step_withBudget setting budget node state).trans hs
      have hsteps := steps_of_step hs
      rcases he : next? setting.graph node effect with _ | id
      · rw [chain_ended hs he, chain_ended hs' he, State.apply_steps, hsteps]
        exact .inl ⟨rfl, by omega⟩
      · rcases ht : setting.graph.node? id with _ | target
        · rw [chain_lost hs he ht, chain_lost hs' he ht]
          refine .inl ⟨rfl, ?_⟩
          change state'.steps ≤ _
          omega
        · rw [chain_next hs he ht, chain_next hs' he ht]
          have hid : target.id = id := (Graph.node?_eq_some_iff.1 ht).2
          rcases ih (state'.apply effect) (hid ▸ ht) with ⟨hsame, hle⟩ | hcut
          · rw [State.apply_steps, hsteps] at hle
            exact .inl ⟨hsame, by omega⟩
          · obtain ⟨next, live, hnext, hlive, hspent, hcut, hon⟩ := hcut
            rw [State.apply_steps, hsteps] at hspent
            exact .inr ⟨next, live, hnext, hlive.head (.step hn hs), by omega, hcut, hon⟩
    · have hs' := (step_withBudget setting budget node state).trans hs
      have hsteps := steps_of_step hs
      rw [chain_failed hs, chain_failed hs']
      refine .inl ⟨rfl, ?_⟩
      change state'.steps ≤ _
      omega

/-- With a larger budget the chains do the same, or they go on where the others are cut
off. -/
theorem chains_withBudget (extra : Nat) (starts : List Node) (state : State σ)
    (hn : ∀ start ∈ starts, setting.graph.node? start.id = some start)
    (hle : state.steps ≤ setting.budget) :
    chains (setting.withBudget (setting.budget + extra)) starts state
        = chains setting starts state
      ∨ ∃ next live, setting.graph.node? next.id = some next
        ∧ ReflTransGen (Advances setting) state live ∧ live.steps = setting.budget
        ∧ chains setting starts state = live.abort (.exhausted next setting.budget)
        ∧ (chain (setting.withBudget (setting.budget + extra)) extra next live).2.Extends
          (chains (setting.withBudget (setting.budget + extra)) starts state) := by
  induction starts generalizing state with
  | nil => exact .inl rfl
  | cons start rest ih =>
    have hstart := hn start List.mem_cons_self
    have hrest : ∀ other ∈ rest, setting.graph.node? other.id = some other :=
      fun other ho => hn other (List.mem_cons_of_mem _ ho)
    have hleft : (setting.withBudget (setting.budget + extra)).budget - state.steps
        = setting.budget - state.steps + extra := by
      change setting.budget + extra - state.steps = _
      omega
    rcases chain_withBudget (setting.budget + extra) (setting.budget - state.steps) extra state
        hstart with ⟨hsame, hsteps⟩ | ⟨next, live, hnext, hlive, hspent, hcut, hon⟩
    · -- the smaller budget lasts to the end of this chain
      rw [← hleft] at hsame
      rcases hc : chain setting (setting.budget - state.steps) start state with ⟨_ | _, state'⟩
      · rw [chains_halted hc, chains_halted (hsame.trans hc)]
        exact .inl rfl
      · rw [chains_next hc, chains_next (hsame.trans hc)]
        have hle' : state'.steps ≤ setting.budget := by
          rw [hc] at hsteps
          dsimp only at hsteps
          omega
        rcases ih state' hrest hle' with hsame' | hcut
        · exact .inl hsame'
        · obtain ⟨next, live, hnext, hlive, hrest⟩ := hcut
          exact .inr ⟨next, live, hnext, (advances_of_chain hstart hc).trans hlive, hrest⟩
    · -- it is spent in this chain, and the chains after it only add to what is recorded
      rw [← hleft] at hon
      refine .inr ⟨next, live, hnext, hlive, by omega, chains_halted hcut, ?_⟩
      rw [← hon]
      rcases hc : chain (setting.withBudget (setting.budget + extra))
        ((setting.withBudget (setting.budget + extra)).budget - state.steps) start state
        with ⟨_ | _, state'⟩
      · rw [chains_halted hc]
        exact State.Extends.refl state'
      · rw [chains_next hc]
        exact extends_chains rest state' hrest

/-! ## Whole runs -/

/-- Where the chains do the same, so do the runs. -/
theorem ofGraph_withBudget {budget : Nat} {values : Context} {starts : List Node} {caller : σ}
    (h : chains (setting.withBudget budget) starts (initial setting values starts caller)
      = chains setting starts (initial setting values starts caller)) :
    ofGraph (setting.withBudget budget) values starts caller
      = ofGraph setting values starts caller := by
  simp only [initial] at h
  simp only [ofGraph, Setting.withBudget] at h ⊢
  rw [h]

/-- A run executes no more nodes than its budget allows. -/
theorem executed_ofGraph_le (setting : Setting σ) (values : Context) (starts : List Node)
    (caller : σ) (hn : ∀ start ∈ starts, setting.graph.node? start.id = some start) :
    (ofGraph setting values starts caller).result.executed ≤ setting.budget := by
  obtain ⟨trails, htrails, hevents⟩ :=
    chains_trails setting starts (initial setting values starts caller) hn
  rw [ofGraph_result, RunResult.executed, hevents]
  exact htrails.shape.executed_le

/-- What a run that was cut off has in common with the one that went on from there. -/
theorem isCutOff_of_live {budget : Nat} {next : Node} {live state' : State σ} {outcome : Outcome}
    {short long : Run σ} (hl : live.IsLive) (hsteps : live.steps = budget)
    (ht : live.IsTold setting) (hs : step setting next live = (outcome, state'))
    (hevents : short.result.events = live.result.events ++ [.exhausted next budget])
    (hrequests : short.requests = live.requests) (hrecap : short.result.recap = live.result.recap)
    (hlong : state'.result.events <+: long.result.events ∧ state'.requests <+: long.requests) :
    budget < long.result.executed ∧ short.IsCutOff setting.graph budget long := by
  obtain ⟨⟨more, hmore⟩, hasked⟩ := hlong
  rw [events_of_step hs, List.append_assoc] at hmore
  have hlength : live.result.events.length = budget := hl.length.trans hsteps
  have htake : long.result.events.take budget = live.result.events := by
    rw [← hmore, ← hlength, List.take_left]
  have hexecuted : ∀ event ∈ live.result.events, event.isFatal = false :=
    fun event he => Event.isFatal_of_succeeded (hl.succeeded event he)
  refine ⟨?_, ⟨⟨next, outcome, ?_, ?_⟩, ?_, ?_, ?_⟩⟩
  · have hcount : live.result.events.countP (!·.isFatal) = budget := by
      rw [← hlength, List.countP_eq_length]
      intro event he
      simp [hexecuted event he]
    rw [RunResult.executed, ← hmore, List.countP_append, hcount, List.singleton_append,
      List.countP_cons_of_pos (by rfl)]
    omega
  · rw [← hmore, ← hlength, List.getElem?_append_right (Nat.le_refl _), Nat.sub_self]
    rfl
  · rw [htake, hevents]
  · rw [htake]
    exact hexecuted
  · rw [hrequests]
    exact (extends_of_step hs).requests.trans hasked
  · intro context
    rw [htake, hrecap, ht context]

/-- The runs from the same start nodes with two budgets agree as far as the smaller one
goes. -/
theorem agreesUpTo_ofGraph (setting : Setting σ) (extra : Nat) (values : Context)
    {starts : List Node} (hs : ∀ start ∈ starts, start ∈ setting.graph.nodes) (caller : σ) :
    (ofGraph setting values starts caller).AgreesUpTo setting.graph setting.budget
      (ofGraph (setting.withBudget (setting.budget + extra)) values starts caller) := by
  have hn : ∀ start ∈ starts, setting.graph.node? start.id = some start :=
    fun start hstart => Graph.node?_of_mem (hs start hstart)
  have hle := executed_ofGraph_le setting values starts caller hn
  have hagree : ofGraph (setting.withBudget (setting.budget + extra)) values starts caller
        = ofGraph setting values starts caller →
      (ofGraph setting values starts caller).AgreesUpTo setting.graph setting.budget
        (ofGraph (setting.withBudget (setting.budget + extra)) values starts caller) := by
    intro hsame
    rw [hsame]
    exact ⟨fun _ => rfl, fun hlt => absurd hle (Nat.not_le.2 hlt)⟩
  rcases chains_withBudget extra starts (initial setting values starts caller) hn (Nat.zero_le _)
    with hsame | ⟨next, live, hnext, hlive, hspent, hcut, hon⟩
  · exact hagree (ofGraph_withBudget hsame)
  -- with equal budgets the runs are the same; a larger one is enough for one more step
  cases extra with
  | zero => exact hagree rfl
  | succ extra =>
    rcases hstep : step setting next live with ⟨outcome, state'⟩
    have hstep' : step (setting.withBudget (setting.budget + (extra + 1))) next live
        = (outcome, state') := hstep
    have hfirst : state'.Extends
        (chains (setting.withBudget (setting.budget + (extra + 1))) starts
          (initial setting values starts caller)) := (extends_chain_of_step hstep').trans hon
    have hisLive : live.IsLive := kept_of_advances hlive (fun _ _ => isLive_of_advances)
      (isLive_initial setting values starts caller)
    have htold : live.IsTold setting := kept_of_advances (P := State.IsTold setting) hlive
      (fun _ _ => isTold_of_advances) fun _ => rfl
    have hresult : (ofGraph setting values starts caller).result
        = (live.abort (.exhausted next setting.budget)).result := by
      rw [ofGraph_result, hcut]
    have hrequests : (ofGraph setting values starts caller).requests = live.requests := by
      rw [ofGraph_requests, hcut]
      rfl
    have hlong : state'.result.events
          <+: (ofGraph (setting.withBudget (setting.budget + (extra + 1))) values starts
            caller).result.events
        ∧ state'.requests
          <+: (ofGraph (setting.withBudget (setting.budget + (extra + 1))) values starts
            caller).requests := ⟨hfirst.events, hfirst.requests⟩
    obtain ⟨hmore, hcutOff⟩ := isCutOff_of_live hisLive hspent htold hstep
      (by rw [hresult]; rfl) hrequests (by rw [hresult]; rfl) hlong
    exact ⟨fun h => absurd h (Nat.not_le.2 hmore), fun _ => hcutOff⟩

end Run

/-- Where nothing happens the budget does not matter. -/
theorem Run.agreesUpTo_idle {graph : Graph} {budget : Nat} {result : RunResult} {caller : σ}
    (h : result.events = []) :
    (Run.idle result caller).AgreesUpTo graph budget (Run.idle result caller) :=
  ⟨fun _ => rfl, fun hlt => by simp [Run.idle, RunResult.executed, h] at hlt⟩

/-- The run of a graph with a larger budget. -/
theorem Graph.agreesUpTo_raised (graph : Graph) (options : RunOptions) {budget : Nat}
    (h : options.budget ≤ budget) (values : Context) (caller? : Option (Caller σ))
    (event : Option FormEvent) (caller : σ) :
    (graph.run options values caller? event caller).AgreesUpTo graph options.budget
      (graph.run (options.raised budget h) values caller? event caller) := by
  obtain ⟨extra, rfl⟩ := Nat.exists_eq_add_of_le h
  by_cases hgate : options.gate = true → graph.isValid = true
  · have hgate' : (options.raised _ h).gate = true → graph.isValid = true := hgate
    rw [run_eq_ofGraph hgate, run_eq_ofGraph hgate']
    exact Run.agreesUpTo_ofGraph (options.setting graph caller?) extra values
      (fun _ => mem_nodes_of_mem_startNodes) caller
  · rw [Classical.not_imp, Bool.not_eq_true] at hgate
    have hgate' : (options.raised _ h).gate = true := hgate.1
    rw [run_eq_idle hgate.1 hgate.2, run_eq_idle hgate' hgate.2]
    exact Run.agreesUpTo_idle rfl

/-- Two runs that differ in the budget only agree as far as the smaller one goes,
whatever the graph, the values, the answers and the event are. -/
theorem agreesUpTo_run (options : RunOptions) (budget : Nat) (h : options.budget ≤ budget)
    (values : Context) (caller? : Option (Caller σ)) (event : Option FormEvent) (caller : σ) :
    (∀ graph : Graph,
        (graph.run options values caller? event caller).AgreesUpTo graph options.budget
          (graph.run (options.raised budget h) values caller? event caller))
      ∧ ∀ workflow : Workflow,
        (workflow.run options values caller? event caller).AgreesUpTo workflow.toGraph
          options.budget (workflow.run (options.raised budget h) values caller? event caller) := by
  constructor
  · intro graph
    exact graph.agreesUpTo_raised options h values caller? event caller
  · intro workflow
    rcases he : workflow.enabled with _ | _
    · rw [Workflow.run_of_disabled he, Workflow.run_of_disabled he]
      exact Run.agreesUpTo_idle rfl
    · rw [Workflow.run_of_enabled he, Workflow.run_of_enabled he]
      exact workflow.toGraph.agreesUpTo_raised options h values caller? event caller

/-- Three steps, whatever the graph is. -/
def RunOptions.threeSteps : RunOptions :=
  ⟨3, .ofNat 30, false, by decide⟩

/-- The first chain takes three steps, so a run of three is cut off before the second
one begins. -/
theorem agreesUpTo_run_greeting :
    (3 ≤ 4 ∧ 3 < (Workflow.greeting.run (.raised .threeSteps 4 (by decide)) []
        (none : Option (Caller Unit)) none ()).result.executed)
      ∧ (Workflow.greeting.run .threeSteps [] (none : Option (Caller Unit)) none ()).IsCutOff
        Workflow.greeting.toGraph 3
        (Workflow.greeting.run (.raised .threeSteps 4 (by decide)) []
          (none : Option (Caller Unit)) none ()) := by
  have hmore : 3 < (Workflow.greeting.run (.raised .threeSteps 4 (by decide)) []
      (none : Option (Caller Unit)) none ()).result.executed := by decide +kernel
  obtain ⟨-, hworkflow⟩ :=
    agreesUpTo_run .threeSteps 4 (by decide) [] (none : Option (Caller Unit)) none ()
  exact ⟨⟨by decide, hmore⟩, (hworkflow Workflow.greeting).cutOff hmore⟩

end FormAutomation
