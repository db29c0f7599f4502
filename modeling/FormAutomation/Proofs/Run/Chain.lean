import FormAutomation.Proofs.Check.Validity
import FormAutomation.Proofs.Run.Trail

/-!
# Runs follow the edges

What a run records splits into chains, one for each start node in turn.  Within a
chain the edge from each event leads to the next: the first edge, in the author's
order, that leaves the node by the port of the branch that was recorded, or by the
one way on from nodes that are no conditions.  A chain ends well exactly where there
is no such edge; after one that does not, no other is begun.

Nothing of this depends on what the nodes do, so it is said about trails first.
-/

namespace FormAutomation

namespace Graph

/-- The edge from an event, which is a success, leads to the next event. -/
def Follows (graph : Graph) (event next : Event) : Prop :=
  event.succeeded = true ∧ ∃ edge, graph.edgeAfter? event = some edge ∧ next.nodeId = edge.target

/-- The events of a chain that starts at the node of an id. -/
structure IsChainFrom (graph : Graph) (start : String) (chain : List Event) : Prop where
  /-- it begins there -/
  begins : ∃ first ∈ chain.head?, first.nodeId = start
  /-- its events are about the nodes of the graph that have their ids -/
  named : ∀ event ∈ chain, event.node? = graph.node? event.nodeId
  /-- it goes on along the edges -/
  follows : chain.IsChain graph.Follows
  /-- a success is the end of it exactly if no edge goes on -/
  ends : ∀ (i : Nat) (event : Event), chain[i]? = some event → event.succeeded = true →
    (i + 1 = chain.length ↔ graph.edgeAfter? event = none)

/-- The chains of start nodes. -/
structure AreChains (graph : Graph) (starts : List Node) (chains : List (List Event)) :
    Prop where
  /-- each begins at the start node in its place -/
  chain : ∀ (i : Nat) (start : Node) (chain : List Event), starts[i]? = some start →
    chains[i]? = some chain → graph.IsChainFrom start.id chain
  /-- a start node has its turn exactly if there was no error before -/
  turn_iff : ∀ i, i < chains.length
    ↔ i < starts.length ∧ ∀ chain ∈ chains.take i, ∀ event ∈ chain, event.succeeded = true

/-- What is recorded by a run that is not refused. -/
structure IsTrace (graph : Graph) (event : Option FormEvent) (events : List Event) : Prop where
  /-- the chains of the start nodes, one after the other -/
  chains : ∃ chains, events = chains.flatten ∧ graph.AreChains (graph.startNodes event) chains
  /-- without an event a graph with nodes has one of them executed -/
  executes : event = none → graph.nodes ≠ [] → ∃ event ∈ events, event.isFatal = false

variable {graph : Graph} {budget left : Nat} {node : Node} {trail : List Event} {event : Event}

/-! ## Trails are chains -/

/-- A single event is a chain if it is an error or no edge goes on. -/
theorem isChainFrom_singleton (event : Event) (hn : event.node? = graph.node? event.nodeId)
    (he : event.succeeded = true → graph.edgeAfter? event = none) :
    graph.IsChainFrom event.nodeId [event] where
  begins := ⟨event, rfl, rfl⟩
  named := by
    intro other hother
    obtain rfl := List.mem_singleton.1 hother
    exact hn
  follows := List.isChain_singleton event
  ends := by
    intro i other hother hsucceeded
    cases i with
    | zero =>
      obtain rfl : event = other := by simpa using hother
      exact ⟨fun _ => he hsucceeded, fun _ => rfl⟩
    | succ i => simp at hother

/-- A chain is not empty. -/
theorem IsChainFrom.ne_nil {start : String} {chain : List Event}
    (h : graph.IsChainFrom start chain) : chain ≠ [] := by
  rintro rfl
  obtain ⟨_, hfirst, -⟩ := h.begins
  cases hfirst

/-- The edge from a success leads to the chain of its target. -/
theorem IsChainFrom.cons {edge : Edge} (h : graph.IsChainFrom edge.target trail) (event : Event)
    (hn : event.node? = graph.node? event.nodeId) (hs : event.succeeded = true)
    (he : graph.edgeAfter? event = some edge) :
    graph.IsChainFrom event.nodeId (event :: trail) where
  begins := ⟨event, rfl, rfl⟩
  named := by
    intro other hother
    rcases List.mem_cons.1 hother with rfl | hother
    · exact hn
    · exact h.named other hother
  follows := by
    refine h.follows.cons fun next hnext => ⟨hs, edge, he, ?_⟩
    obtain ⟨first, hfirst, hid⟩ := h.begins
    obtain rfl := Option.mem_unique hnext hfirst
    exact hid
  ends := by
    intro i other hother hsucceeded
    cases i with
    | zero =>
      obtain rfl : event = other := by simpa using hother
      have hne : trail.length ≠ 0 := fun hzero => h.ne_nil (List.length_eq_zero_iff.1 hzero)
      rw [he, List.length_cons]
      constructor
      · intro hlength
        omega
      · intro hnone
        cases hnone
    | succ i =>
      rw [List.getElem?_cons_succ] at hother
      rw [List.length_cons, Nat.add_right_cancel_iff]
      exact h.ends i other hother hsucceeded

theorem Trail.isChainFrom (h : graph.Trail budget left node trail) :
    graph.IsChainFrom node.id trail := by
  induction h with
  | @exhausted node hn =>
    exact isChainFrom_singleton (.exhausted node budget) hn.symm fun hs => by cases hs
  | @failed left node fault hn =>
    exact isChainFrom_singleton (.executed node (.failure fault)) hn.symm
      fun hs => by cases hs
  | @ended left node effect hn he =>
    exact isChainFrom_singleton (.executed node (.success effect)) hn.symm fun _ => he
  | @lost left node effect edge hn he ht =>
    have hlost : graph.IsChainFrom edge.target [.lost edge.target] :=
      isChainFrom_singleton (.lost edge.target) ht.symm fun hs => by cases hs
    exact hlost.cons (.executed node (.success effect)) hn.symm rfl he
  | @next left node effect edge target trail hn he ht hr ih =>
    rw [(node?_eq_some_iff.1 ht).2] at ih
    exact ih.cons (.executed node (.success effect)) hn.symm rfl he

/-- The chain of the start node comes before those of the others. -/
theorem isChainFrom_cons {start : Node} {rest : List Node} {trails : List (List Event)}
    (h : graph.IsChainFrom start.id trail)
    (hrest : ∀ (i : Nat) (other : Node) (chain : List Event), rest[i]? = some other →
      trails[i]? = some chain → graph.IsChainFrom other.id chain) :
    ∀ (i : Nat) (other : Node) (chain : List Event), (start :: rest)[i]? = some other →
      (trail :: trails)[i]? = some chain → graph.IsChainFrom other.id chain := by
  intro i other chain hother hchain
  cases i with
  | zero =>
    obtain rfl : start = other := by simpa using hother
    obtain rfl : trail = chain := by simpa using hchain
    exact h
  | succ i => exact hrest i other chain (by simpa using hother) (by simpa using hchain)

theorem Trails.areChains {starts : List Node} {trails : List (List Event)}
    (h : graph.Trails budget left starts trails) : graph.AreChains starts trails := by
  induction h with
  | nil => exact ⟨by simp, by simp⟩
  | @halted left start rest trail ht he =>
    refine ⟨isChainFrom_cons ht.isChainFrom (by simp), ?_⟩
    · intro i
      cases i with
      | zero => simp
      | succ i =>
        constructor
        · intro hi
          simp at hi
        · -- the error in the only chain leaves the others without a turn
          rintro ⟨-, hall⟩
          obtain ⟨event, hevent, herror⟩ := he
          rw [hall trail (by simp) event hevent] at herror
          cases herror
  | @next left start rest trail trails ht hs hr ih =>
    refine ⟨isChainFrom_cons ht.isChainFrom ih.chain, ?_⟩
    · intro i
      cases i with
      | zero => simp
      | succ i =>
        have hturn := ih.turn_iff i
        simp only [List.length_cons, Nat.add_lt_add_iff_right, List.take_succ_cons,
          List.forall_mem_cons]
        rw [hturn]
        exact and_congr_right fun _ => ⟨fun hall => ⟨hs, hall⟩, fun hall => hall.2⟩

/-! ## Runs -/

/-- With a step left the start node of a trail is executed. -/
theorem Trail.exists_executed (h : graph.Trail budget left node trail) (hl : 0 < left) :
    ∃ event ∈ trail, event.isFatal = false := by
  cases h with
  | exhausted hn => exact absurd hl (Nat.lt_irrefl 0)
  | failed hn => exact ⟨_, List.mem_cons_self, rfl⟩
  | ended hn he => exact ⟨_, List.mem_cons_self, rfl⟩
  | lost hn he ht => exact ⟨_, List.mem_cons_self, rfl⟩
  | next hn he ht hr => exact ⟨_, List.mem_cons_self, rfl⟩

theorem Trails.exists_executed {starts : List Node} {trails : List (List Event)}
    (h : graph.Trails budget left starts trails) (hl : 0 < left) (hs : starts ≠ []) :
    ∃ event ∈ trails.flatten, event.isFatal = false := by
  cases h with
  | nil => exact absurd rfl hs
  | halted ht he =>
    obtain ⟨event, hevent, hfatal⟩ := ht.exists_executed hl
    exact ⟨event, by simpa using hevent, hfatal⟩
  | next ht hall hr =>
    obtain ⟨event, hevent, hfatal⟩ := ht.exists_executed hl
    exact ⟨event, by simp [hevent], hfatal⟩

/-- What a run records is about the nodes of the graph that have the ids. -/
theorem named_of_mem_events {σ : Type} {options : RunOptions} {values : Context}
    {caller? : Option (Caller σ)} {event : Option FormEvent} {caller : σ} {entry : Event}
    (h : entry ∈ (graph.run options values caller? event caller).result.events) :
    entry.node? = graph.node? entry.nodeId := by
  obtain ⟨start, -, left, trail, htrail, hentry⟩ := exists_trail_of_mem h
  exact htrail.isChainFrom.named entry hentry

/-- What the gate lets through follows the edges. -/
theorem isTrace_of_gate {σ : Type} {options : RunOptions}
    (h : options.gate = true → graph.isValid = true) (values : Context)
    (caller? : Option (Caller σ)) (event : Option FormEvent) (caller : σ) :
    graph.IsTrace event (graph.run options values caller? event caller).result.events := by
  obtain ⟨trails, htrails, hevents⟩ := run_trails h values caller? event caller
  refine ⟨⟨trails, hevents, htrails.areChains⟩, ?_⟩
  rintro rfl hnodes
  rw [hevents]
  exact htrails.exists_executed options.budget_pos (startNodes_none_ne_nil hnodes)

end Graph

variable {σ : Type}

/-- A run that is neither refused nor that of a workflow which is not enabled follows
the edges of the graph from its start nodes. -/
theorem isTrace_run (options : RunOptions) (values : Context) (caller? : Option (Caller σ))
    (event : Option FormEvent) (caller : σ) :
    (∀ graph : Graph, (options.gate = true → graph.isValid = true) →
        graph.IsTrace event (graph.run options values caller? event caller).result.events)
      ∧ ∀ workflow : Workflow, workflow.enabled = true →
        (options.gate = true → workflow.isValid = true) →
          workflow.toGraph.IsTrace event
            (workflow.run options values caller? event caller).result.events := by
  constructor
  · intro graph hgate
    exact Graph.isTrace_of_gate hgate values caller? event caller
  · intro workflow henabled hgate
    rw [Workflow.run_of_enabled henabled]
    exact Graph.isTrace_of_gate hgate values caller? event caller

/-- A question is asked when the page is opened and when the form is sent. -/
def Workflow.greeting : Workflow where
  id := "greeting"
  name := "Greeting"
  enabled := true
  nodes :=
    [⟨"load", "", .trigger (some .pageLoad) none, by decide⟩,
     ⟨"known", "", .condition (some "name") (some .isNotEmpty) none, by decide⟩,
     ⟨"hello", "", .showDialog none (some "Hello"), by decide⟩,
     ⟨"ask", "", .page (some "name"), by decide⟩,
     ⟨"send", "", .trigger (some .formSubmit) none, by decide⟩]
  edges :=
    [⟨"check", "load", .out, "known", by decide⟩,
     ⟨"greet", "known", .whenTrue, "hello", by decide⟩,
     ⟨"query", "known", .whenFalse, "ask", by decide⟩,
     ⟨"thank", "send", .out, "hello", by decide⟩]
  distinct := by decide

theorem Workflow.isValid_greeting : greeting.isValid = true :=
  (Graph.isValid_iff (by decide)).2 ⟨by decide, by decide, by cbv⟩

/-- Four steps, and only for valid graphs. -/
def RunOptions.fourGated : RunOptions :=
  ⟨4, .ofNat 30, true, by decide⟩

/-- The last of the five nodes in the way of these chains finds the budget spent. -/
theorem isTrace_run_greeting :
    Workflow.greeting.isValid = true ∧ Workflow.greeting.enabled = true
      ∧ Workflow.greeting.toGraph.IsTrace none
        (Workflow.greeting.toGraph.run .fourGated [] (none : Option (Caller Unit)) none
          ()).result.events
      ∧ Workflow.greeting.toGraph.IsTrace none
        (Workflow.greeting.run .fourGated [] (none : Option (Caller Unit)) none
          ()).result.events := by
  have hvalid := Workflow.isValid_greeting
  obtain ⟨hgraph, hworkflow⟩ := isTrace_run .fourGated [] (none : Option (Caller Unit)) none ()
  exact ⟨hvalid, rfl, hgraph _ fun _ => hvalid, hworkflow _ rfl fun _ => hvalid⟩

end FormAutomation
