import FormAutomation.Proofs.Check.Port
import FormAutomation.Proofs.Run.Move

/-!
# Edges that runs do not miss

A run looks at edges for one purpose only: to find the first by which a node is left on a
port of the node.  Two lists of edges that agree in these, for every node and every port
of it, make the same runs of a graph that has triggers; without any, edges also decide
where a run starts, and behind the gate they decide whether there is a run.

So the edges that are reported for their ports can be left out, all or some of them, and
the edges can be put in any order that keeps those of a node and a port in theirs.
-/

namespace FormAutomation

namespace Graph

/-- The graph with other edges. -/
def withEdges (graph : Graph) (edges : List Edge) : Graph :=
  { graph with edges }

/-- What is reported of edges for their ports says which of them are not followed. -/
structure ReportsUnfollowed (graph : Graph) : Prop where
  /-- one edge after the other is reported, and each is reported once -/
  issues : graph.issuesOf ["EDGE_PORT_INVALID", "EDGE_PORT_DUPLICATE"]
    = (graph.edges.zipIdx.filterMap graph.flag?).map Finding.issue
  /-- of edges from existing nodes, all are reported but those that are followed -/
  unflagged_iff : ∀ edge place, (edge, place) ∈ graph.edges.zipIdx →
    graph.has edge.source = true →
      (graph.flag? (edge, place) = none ↔ graph.IsFollowed place)
  /-- a run goes on along the edges that are followed -/
  next : ∀ node effect, Run.next? graph node effect
    = (graph.place? node (Run.portAfter effect)).bind
      fun place => graph.edges[place]?.map (·.target)
  /-- which they are can be told from the reports if no two edges have the same name -/
  unnamed_iff : (graph.edges.map (·.id)).Nodup → ∀ edge place, (edge, place) ∈ graph.edges.zipIdx →
    graph.has edge.source = true →
      ((∀ issue ∈ graph.issuesOf ["EDGE_PORT_INVALID", "EDGE_PORT_DUPLICATE"],
        issue.edge ≠ some edge.id) ↔ graph.IsFollowed place)

/-- These are the edges without some of those that are reported. -/
def Thins (graph : Graph) (edges : List Edge) : Prop :=
  ∃ drops : Nat → Bool,
    (∀ entry ∈ graph.edges.zipIdx, drops entry.2 = true → (graph.flag? entry).isSome = true)
      ∧ edges = (graph.edges.zipIdx.filter fun entry => !drops entry.2).map Prod.fst

/-- These are the edges in an order that keeps those with one source and port in theirs. -/
def Reorders (graph : Graph) (edges : List Edge) : Prop :=
  ∀ source port, (edges.filter fun edge => edge.source == source && edge.port == port)
    = graph.edges.filter fun edge => edge.source == source && edge.port == port

/-- Every node is left by the same edges, along these edges and along those of the graph. -/
def LeftAlike (graph : Graph) (edges : List Edge) : Prop :=
  ∀ node ∈ graph.nodes, ∀ port, node.kind.Offers port →
    (edges.find? fun edge => edge.source == node.id && edge.port == port)
      = graph.edges.find? fun edge => edge.source == node.id && edge.port == port

variable {graph : Graph} {edges : List Edge}

theorem reportsUnfollowed (graph : Graph) : graph.ReportsUnfollowed where
  issues := graph.issuesOf_ports_eq
  unflagged_iff _ _ _ hs := flag?_eq_none_iff hs
  next := next?_eq_place graph
  unnamed_iff hd _ _ he hs :=
    (isFollowed_iff_unnamed hd (List.mk_mem_zipIdx_iff_getElem?.1 he) hs).symm

/-! ## Edges that agree -/

/-- What is found first among elements at places is found without the others. -/
theorem find?_filter_places {p : Edge → Bool} {drops : Nat → Bool} (edges : List Edge)
    (start : Nat) (h : ∀ i, edges.findIdx? p = some i → drops (start + i) = false) :
    (((edges.zipIdx start).filter fun entry => !drops entry.2).map Prod.fst).find? p
      = edges.find? p := by
  induction edges generalizing start with
  | nil => rfl
  | cons edge rest ih =>
    rw [List.zipIdx_cons, List.filter_cons, List.find?_cons]
    cases hp : p edge with
    | true =>
      have hkept : drops start = false := h 0 (by simp [List.findIdx?_cons, hp])
      simp [hkept, hp]
    | false =>
      have hrest := ih (start + 1) fun i hi => by
        rw [Nat.add_assoc, Nat.add_comm 1]
        exact h (i + 1) (by simp [List.findIdx?_cons, hp, hi])
      split
      · rw [List.map_cons, List.find?_cons, hp]
        exact hrest
      · exact hrest

/-- Leaving out edges that are not followed changes no way out of a node. -/
theorem Thins.leftAlike (h : graph.Thins edges) : graph.LeftAlike edges := by
  obtain ⟨drops, hdrops, rfl⟩ := h
  intro node hnode port hoffers
  refine find?_filter_places graph.edges 0 fun place hplace => ?_
  rw [Nat.zero_add, Bool.eq_false_iff]
  intro hdrop
  obtain ⟨hlt, -⟩ := List.findIdx?_eq_some_iff_getElem.1 hplace
  have hentry : (graph.edges[place], place) ∈ graph.edges.zipIdx :=
    List.mk_mem_zipIdx_iff_getElem?.2 (List.getElem?_eq_getElem hlt)
  have hfollowed : graph.IsFollowed place := by
    obtain ⟨effect, hbranch, rfl⟩ := offers_iff_exists_effect.1 hoffers
    exact ⟨node, hnode, effect, hbranch, hplace⟩
  have hflag := hdrops _ hentry hdrop
  rw [flag?, if_pos hfollowed] at hflag
  cases hflag

theorem Reorders.leftAlike (h : graph.Reorders edges) : graph.LeftAlike edges := by
  intro node _ port _
  rw [← List.head?_filter, ← List.head?_filter, h node.id port]

/-- Where nodes are left alike, runs go on alike. -/
theorem LeftAlike.next?_eq (h : graph.LeftAlike edges) {node : Node} (hn : node ∈ graph.nodes)
    {effect : Effect} (hb : effect.branch.isSome = (node.kind == .condition)) :
    Run.next? (graph.withEdges edges) node effect = Run.next? graph node effect := by
  have hoffers : node.kind.Offers (Run.portAfter effect) :=
    offers_iff_exists_effect.2 ⟨effect, hb, rfl⟩
  have hfind := h node hn _ hoffers
  rw [← List.head?_filter, ← List.head?_filter] at hfind
  exact congrArg (·.map (·.target)) hfind

/-- In a graph with triggers it is these that a run starts at. -/
theorem startNodes_withEdges (ht : graph.triggers ≠ []) (event : Option FormEvent) :
    (graph.withEdges edges).startNodes event = graph.startNodes event := by
  have hnot : ¬ graph.triggers.isEmpty = true := by simpa using ht
  have hnot' : ¬ (graph.withEdges edges).triggers.isEmpty = true := hnot
  cases event with
  | none =>
    change (graph.withEdges edges).starts = graph.starts
    rw [starts, if_neg hnot', starts, if_neg hnot]
    rfl
  | some event =>
    simp only [startNodes, if_neg hnot', if_neg hnot]
    rfl

end Graph

/-! ## Runs along edges that agree -/

namespace Run

variable {σ : Type} {setting : Setting σ} {edges : List Edge}

/-- The setting with other edges. -/
def Setting.withEdges (setting : Setting σ) (edges : List Edge) : Setting σ :=
  { setting with graph := setting.graph.withEdges edges }

/-- A step does not look at edges. -/
theorem step_withEdges (setting : Setting σ) (edges : List Edge) (node : Node)
    (state : State σ) : step (setting.withEdges edges) node state = step setting node state := rfl

theorem chain_withEdges (h : setting.graph.LeftAlike edges) (left : Nat) {node : Node}
    (hn : node ∈ setting.graph.nodes) (state : State σ) :
    chain (setting.withEdges edges) left node state = chain setting left node state := by
  -- both chains come by the same nodes of the graph
  induction left generalizing node state with
  | zero => rfl
  | succ left ih =>
    rcases hs : step setting node state with ⟨effect | fault, state'⟩
    · have hs' := (step_withEdges setting edges node state).trans hs
      have hnext := h.next?_eq hn (isSome_branch_of_step hs)
      rcases he : next? setting.graph node effect with _ | id
      · rw [chain_ended hs he, chain_ended hs' (hnext.trans he)]
      · rcases ht : setting.graph.node? id with _ | target
        · rw [chain_lost hs he ht, chain_lost hs' (hnext.trans he) ht]
        · rw [chain_next hs he ht, chain_next hs' (hnext.trans he) ht]
          exact ih (Graph.node?_eq_some_iff.1 ht).1 _
    · have hs' := (step_withEdges setting edges node state).trans hs
      rw [chain_failed hs, chain_failed hs']

theorem chains_withEdges (h : setting.graph.LeftAlike edges) (starts : List Node)
    (hn : ∀ start ∈ starts, start ∈ setting.graph.nodes) (state : State σ) :
    chains (setting.withEdges edges) starts state = chains setting starts state := by
  induction starts generalizing state with
  | nil => rfl
  | cons start rest ih =>
    have hrest : ∀ other ∈ rest, other ∈ setting.graph.nodes :=
      fun other ho => hn other (List.mem_cons_of_mem _ ho)
    have hchain : chain (setting.withEdges edges)
        ((setting.withEdges edges).budget - state.steps) start state
          = chain setting (setting.budget - state.steps) start state :=
      chain_withEdges h _ (hn start List.mem_cons_self) state
    rcases hc : chain setting (setting.budget - state.steps) start state with ⟨_ | _, state'⟩
    · rw [chains_halted hc, chains_halted (hchain.trans hc)]
    · rw [chains_next hc, chains_next (hchain.trans hc)]
      exact ih hrest state'

theorem ofGraph_withEdges (h : setting.graph.LeftAlike edges) (values : Context)
    {starts : List Node} (hn : ∀ start ∈ starts, start ∈ setting.graph.nodes) (caller : σ) :
    ofGraph (setting.withEdges edges) values starts caller
      = ofGraph setting values starts caller := by
  simp only [ofGraph, chains_withEdges h starts hn]
  rfl

end Run

/-- Without the gate, a graph with triggers is run alike along edges that agree. -/
theorem Graph.LeftAlike.run_eq {σ : Type} {graph : Graph} {edges : List Edge}
    (h : graph.LeftAlike edges) (ht : graph.triggers ≠ []) {options : RunOptions}
    (hg : options.gate = false) (values : Context) (caller? : Option (Caller σ))
    (event : Option FormEvent) (caller : σ) :
    (graph.withEdges edges).run options values caller? event caller
      = graph.run options values caller? event caller := by
  have hgate : ∀ P : Prop, options.gate = true → P := by simp [hg]
  rw [run_eq_ofGraph (hgate _), run_eq_ofGraph (hgate _), startNodes_withEdges ht]
  have hgraph : (options.setting graph caller?).graph.LeftAlike edges := h
  exact Run.ofGraph_withEdges hgraph values (fun _ => mem_nodes_of_mem_startNodes) caller

/-- The workflow with other edges. -/
def Workflow.withEdges (workflow : Workflow) (edges : List Edge) : Workflow :=
  { workflow with toGraph := workflow.toGraph.withEdges edges }

variable {σ : Type}

/-- What is reported of edges for their ports says which are not followed; and without the
gate, graphs and workflows with triggers are run alike if some of those are left out, and if
the edges are put in another order in which those of a node and a port keep theirs. -/
theorem run_withEdges (options : RunOptions) (hg : options.gate = false) (values : Context)
    (caller? : Option (Caller σ)) (event : Option FormEvent) (caller : σ) :
    (∀ graph : Graph, graph.ReportsUnfollowed
        ∧ (graph.triggers ≠ [] → ∀ edges, graph.Thins edges ∨ graph.Reorders edges →
          (graph.withEdges edges).run options values caller? event caller
            = graph.run options values caller? event caller))
      ∧ ∀ workflow : Workflow, workflow.triggers ≠ [] →
        ∀ edges, workflow.Thins edges ∨ workflow.Reorders edges →
          (workflow.withEdges edges).run options values caller? event caller
            = workflow.run options values caller? event caller := by
  have hgraph : ∀ graph : Graph, graph.triggers ≠ [] →
      ∀ edges, graph.Thins edges ∨ graph.Reorders edges →
        (graph.withEdges edges).run options values caller? event caller
          = graph.run options values caller? event caller := by
    rintro graph ht edges (hthins | hreorders)
    · exact hthins.leftAlike.run_eq ht hg values caller? event caller
    · exact hreorders.leftAlike.run_eq ht hg values caller? event caller
  refine ⟨fun graph => ⟨graph.reportsUnfollowed, hgraph graph⟩, fun workflow ht edges h => ?_⟩
  cases he : workflow.enabled with
  | false =>
    have he' : (workflow.withEdges edges).enabled = false := he
    rw [Workflow.run_of_disabled he, Workflow.run_of_disabled he']
    rfl
  | true =>
    have he' : (workflow.withEdges edges).enabled = true := he
    rw [Workflow.run_of_enabled he, Workflow.run_of_enabled he']
    exact hgraph workflow.toGraph ht edges h

/-- A condition with two edges on the port of one of its results, and one on a port that it
does not have; two and two of them share a name. -/
def Graph.crossing : Graph where
  id := "crossing"
  nodes :=
    [⟨"sent", "", .trigger (some .formSubmit) none, by decide⟩,
     ⟨"costly", "", .condition (some "amount") (some .greaterThan) (some (.int 1000)), by decide⟩,
     ⟨"assure", "", .showDialog none (some "Are you sure?"), by decide⟩,
     ⟨"close", "", .redirect (some "/thanks") false, by decide⟩]
  edges :=
    [⟨"price", "sent", .out, "costly", by decide⟩,
     ⟨"aye", "costly", .whenTrue, "assure", by decide⟩,
     ⟨"aye", "costly", .whenTrue, "close", by decide⟩,
     ⟨"nay", "costly", .out, "close", by decide⟩,
     ⟨"nay", "costly", .whenFalse, "close", by decide⟩]
  distinct := by decide

/-- The same as a workflow. -/
def Workflow.crossing : Workflow where
  toGraph := .crossing
  name := "Crossing"
  enabled := true

theorem Graph.thins_crossing :
    crossing.Thins (crossing.edges.take 2 ++ crossing.edges.drop 4) :=
  ⟨fun place => place == 2 || place == 3, by decide, rfl⟩

theorem Graph.reorders_crossing :
    crossing.Reorders (crossing.edges.drop 3 ++ crossing.edges.take 3) := by
  intro source port
  by_cases hsent : source = "sent"
  · subst hsent
    cases port <;> rfl
  by_cases hcostly : source = "costly"
  · subst hcostly
    cases port <;> rfl
  · -- no edge comes from anywhere else
    simp [crossing, Ne.symm hsent, Ne.symm hcostly]

/-- The second of two edges on a port and the one on a port of other nodes are reported, and
their absence makes no difference; that a name is reported says nothing about either edge of
that name. -/
theorem run_withEdges_crossing :
    (RunOptions.ofNumbers 100 (.ofNat 30) false).gate = false
      ∧ Graph.crossing.triggers ≠ []
      ∧ Graph.crossing.edges.zipIdx.map (fun entry => (Graph.crossing.flag? entry).isSome)
        = [false, false, true, true, false]
      ∧ (Graph.crossing.issuesOf ["EDGE_PORT_INVALID", "EDGE_PORT_DUPLICATE"]).map (·.edge)
        = [some "aye", some "nay"]
      ∧ (Graph.crossing.Thins (Graph.crossing.edges.take 2 ++ Graph.crossing.edges.drop 4)
        ∧ (Graph.crossing.withEdges
            (Graph.crossing.edges.take 2 ++ Graph.crossing.edges.drop 4)).run
              (.ofNumbers 100 (.ofNat 30) false) [("amount", .int 2000)]
              (none : Option (Caller Unit)) none ()
          = Graph.crossing.run (.ofNumbers 100 (.ofNat 30) false) [("amount", .int 2000)]
              (none : Option (Caller Unit)) none ())
      ∧ Workflow.crossing.triggers ≠ []
        ∧ Workflow.crossing.Reorders (Graph.crossing.edges.drop 3 ++ Graph.crossing.edges.take 3)
        ∧ (Workflow.crossing.withEdges
            (Graph.crossing.edges.drop 3 ++ Graph.crossing.edges.take 3)).run
              (.ofNumbers 100 (.ofNat 30) false) [("amount", .int 2000)]
              (none : Option (Caller Unit)) none ()
          = Workflow.crossing.run (.ofNumbers 100 (.ofNat 30) false) [("amount", .int 2000)]
              (none : Option (Caller Unit)) none () := by
  obtain ⟨hgraph, hworkflow⟩ := run_withEdges (.ofNumbers 100 (.ofNat 30) false) rfl
    [("amount", .int 2000)] (none : Option (Caller Unit)) none ()
  refine ⟨rfl, by decide, by decide, ?_, ⟨Graph.thins_crossing, ?_⟩, by decide,
    Graph.reorders_crossing, ?_⟩
  · rw [Graph.issuesOf_ports_eq]
    decide
  · exact (hgraph Graph.crossing).2 (by decide) _ (.inl Graph.thins_crossing)
  · exact hworkflow Workflow.crossing (by decide) _ (.inr Graph.reorders_crossing)

end FormAutomation
