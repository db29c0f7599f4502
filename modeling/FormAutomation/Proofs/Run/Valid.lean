import FormAutomation.Proofs.Check.Validity
import FormAutomation.Proofs.Run.Chain
import FormAutomation.Proofs.Run.Shape
import Mathlib.Algebra.Order.BigOperators.Group.List
import Mathlib.Algebra.Order.Group.Nat
import Mathlib.Data.List.Perm.Subperm

/-!
# Runs of valid graphs

In a valid graph every edge leads to a node, and no way leads back.  So a chain
never loses its way, and it comes by no node twice; it is no longer than the graph
has nodes, and a budget of as many steps for each start node is never spent.

A run that is gated does all of this or nothing at all.
-/

namespace FormAutomation

/-- What is recorded by a run in which no chain goes astray or in circles. -/
structure RunResult.StaysOnCourse (graph : Graph) (starts : List Node) (budget : Nat)
    (result : RunResult) : Prop where
  /-- every edge that was followed led to a node -/
  found : ∀ id, .lost id ∉ result.events
  /-- the events are those of one chain after the other, each of which comes by no
  node twice -/
  once : ∃ chains : List (List Event), result.events = chains.flatten ∧ chains.length ≤ starts.length
    ∧ ∀ (i : Nat) (start : Node) (chain : List Event), starts[i]? = some start →
      chains[i]? = some chain →
        graph.IsChainFrom start.id chain ∧ (chain.map Event.nodeId).Nodup
  /-- so many nodes are executed at most -/
  executed_le : result.events.countP (!·.isFatal) ≤ starts.length * graph.nodes.length
  /-- a budget of as many steps is enough -/
  unexhausted : starts.length * graph.nodes.length ≤ budget →
    ∀ node spent, .exhausted node spent ∉ result.events

/-- A run that recorded nothing, asked a caller for nothing and told nothing. -/
structure Run.DidNothing {σ : Type} (run : Run σ) (caller : σ) : Prop where
  /-- no event -/
  events : run.result.events = []
  /-- no request -/
  requests : run.requests = []
  /-- no notice -/
  notices : run.notices = []
  /-- the caller is as it was -/
  caller : run.caller = caller

namespace Graph

variable {graph : Graph} {start : String} {chain : List Event}

/-! ## Chains in valid graphs -/

/-- In a valid graph a chain goes from node to node. -/
theorem IsChainFrom.joined (h : graph.IsChainFrom start chain) (hv : graph.isValid = true)
    (hn : graph.nodes ≠ []) : (chain.map Event.nodeId).IsChain graph.Joined := by
  rw [List.isChain_map]
  refine h.follows.imp ?_
  rintro event next ⟨-, edge, he, ht⟩
  obtain ⟨hmem, hsource⟩ := edge_of_edgeAfter? he
  have hends := mem_ids_of_isValid hv hn hmem
  rw [hsource, ← ht] at hends
  exact ⟨hends.1, hends.2, edge, hmem, hsource, ht.symm⟩

/-- In a valid graph a chain does not leave the graph. -/
theorem IsChainFrom.mem_ids (h : graph.IsChainFrom start chain) (hv : graph.isValid = true)
    (hn : graph.nodes ≠ []) (hs : start ∈ graph.ids) {event : Event} (he : event ∈ chain) :
    event.nodeId ∈ graph.ids := by
  refine (h.joined hv hn).induction (· ∈ graph.ids) _ (fun _ _ hj _ => hj.2.1) ?_ _
    (List.mem_map_of_mem he)
  intro hne
  obtain ⟨first, hfirst, hid⟩ := h.begins
  have hhead : (chain.map Event.nodeId).head hne = start := by
    rw [List.head_map, ← hid]
    congr 1
    rw [← Option.some_inj, ← List.head?_eq_some_head, ← Option.mem_def.1 hfirst]
  rw [hhead]
  exact hs

/-- In a valid graph a chain comes by no node twice. -/
theorem IsChainFrom.nodup (h : graph.IsChainFrom start chain) (hv : graph.isValid = true)
    (hn : graph.nodes ≠ []) : (chain.map Event.nodeId).Nodup :=
  (isAcyclic_of_isValid hv hn).nodup (h.joined hv hn)

/-- In a valid graph a chain is no longer than the graph has nodes. -/
theorem IsChainFrom.length_le (h : graph.IsChainFrom start chain) (hv : graph.isValid = true)
    (hn : graph.nodes ≠ []) (hs : start ∈ graph.ids) : chain.length ≤ graph.nodes.length := by
  have hsub : chain.map Event.nodeId ⊆ graph.ids := by
    intro id hid
    obtain ⟨event, hevent, rfl⟩ := List.mem_map.1 hid
    exact h.mem_ids hv hn hs hevent
  have hle := ((h.nodup hv hn).subperm hsub).length_le
  simpa [ids] using hle

/-! ## Runs in valid graphs -/

/-- Chains have their turns one after the other, so there are no more of them than
start nodes. -/
theorem AreChains.length_le {starts : List Node} {chains : List (List Event)}
    (h : graph.AreChains starts chains) : chains.length ≤ starts.length := by
  by_contra hlt
  have := (h.turn_iff starts.length).1 (by omega)
  omega

/-- In a valid graph chains record no more events than the graph has nodes, for
each start node. -/
theorem AreChains.length_flatten_le {starts : List Node} {chains : List (List Event)}
    (h : graph.AreChains starts chains) (hv : graph.isValid = true) (hn : graph.nodes ≠ [])
    (hs : ∀ start ∈ starts, start ∈ graph.nodes) :
    chains.flatten.length ≤ starts.length * graph.nodes.length := by
  have hle : ∀ n ∈ chains.map List.length, n ≤ graph.nodes.length := by
    intro n hmem
    obtain ⟨chain, hchain, rfl⟩ := List.mem_map.1 hmem
    obtain ⟨i, hi, hget⟩ := List.getElem_of_mem hchain
    have hstart : i < starts.length := Nat.lt_of_lt_of_le hi h.length_le
    have hfrom := h.chain i starts[i] chain (List.getElem?_eq_getElem hstart)
      (List.getElem?_eq_some_iff.2 ⟨hi, hget⟩)
    exact hfrom.length_le hv hn (List.mem_map_of_mem (hs _ (List.getElem_mem hstart)))
  calc chains.flatten.length
      = (chains.map List.length).sum := List.length_flatten
    _ ≤ chains.length * graph.nodes.length := by
        simpa using List.sum_le_card_nsmul _ _ hle
    _ ≤ starts.length * graph.nodes.length := Nat.mul_le_mul_right _ h.length_le

theorem staysOnCourse_of_nil {starts : List Node} {budget : Nat} {result : RunResult}
    (h : result.events = []) : result.StaysOnCourse graph starts budget where
  found := by simp [h]
  once := ⟨[], by simp [h], by simp, by simp⟩
  executed_le := by simp [h]
  unexhausted := by simp [h]

/-- The trails of a valid graph stay on course. -/
theorem Trails.staysOnCourse {starts : List Node} {budget : Nat} {result : RunResult}
    {trails : List (List Event)} (h : graph.Trails budget budget starts trails)
    (he : result.events = trails.flatten) (hv : graph.isValid = true)
    (hs : ∀ start ∈ starts, start ∈ graph.nodes) : result.StaysOnCourse graph starts budget := by
  have hchains := h.areChains
  have hshape := h.shape
  rw [← he] at hshape
  by_cases hn : graph.nodes = []
  · -- there is no node to start at
    have hstarts : starts = [] := by
      refine List.eq_nil_iff_forall_not_mem.2 fun start hstart => ?_
      have := hs start hstart
      rw [hn] at this
      exact List.not_mem_nil this
    have hlength := hchains.length_le
    rw [hstarts] at hlength
    have htrails : trails = [] := List.length_eq_zero_iff.1 (Nat.le_zero.1 hlength)
    exact staysOnCourse_of_nil (by rw [he, htrails, List.flatten_nil])
  have hlength := hchains.length_flatten_le hv hn hs
  rw [← he] at hlength
  refine ⟨?_, ⟨trails, he, hchains.length_le, ?_⟩, ?_, ?_⟩
  · intro id hlost
    obtain ⟨hid, done, last, edge, -, -, hedge, rfl⟩ := hshape.lost id hlost
    exact hid (mem_ids_of_isValid hv hn (edge_of_edgeAfter? hedge).1).2
  · intro i start chain hstart hchain
    have hfrom := hchains.chain i start chain hstart hchain
    exact ⟨hfrom, hfrom.nodup hv hn⟩
  · exact Nat.le_trans List.countP_le_length hlength
  · -- a budget that is spent was spent on more events than there can be
    intro hbudget node spent hexhausted
    obtain ⟨-, -, done, hevents, hdone, -⟩ := hshape.exhausted node spent hexhausted
    rw [hevents, List.length_append, hdone, List.length_singleton] at hlength
    omega

/-- The run of a valid graph stays on course. -/
theorem staysOnCourse_of_isValid {σ : Type} (graph : Graph) (hv : graph.isValid = true)
    (options : RunOptions) (values : Context) (caller? : Option (Caller σ))
    (event : Option FormEvent) (caller : σ) :
    (graph.run options values caller? event caller).result.StaysOnCourse graph
      (graph.startNodes event) options.budget := by
  have hgate : options.gate = true → graph.isValid = true := fun _ => hv
  obtain ⟨trails, htrails, hevents⟩ := run_trails hgate values caller? event caller
  exact htrails.staysOnCourse hevents hv fun _ => mem_nodes_of_mem_startNodes

end Graph

variable {σ : Type}

/-- Runs of a valid graph stay on course, and a gated run of any other does nothing
and is told why; that of a workflow which is not enabled is not told. -/
theorem staysOnCourse_run (options : RunOptions) (values : Context) (caller? : Option (Caller σ))
    (event : Option FormEvent) (caller : σ) :
    (∀ graph : Graph,
        (graph.isValid = true →
          (graph.run options values caller? event caller).result.StaysOnCourse graph
            (graph.startNodes event) options.budget)
        ∧ (options.gate = true → graph.isValid = false →
          (graph.run options values caller? event caller).DidNothing caller
            ∧ (graph.run options values caller? event caller).result.rejected = graph.issues))
      ∧ ∀ workflow : Workflow,
        (workflow.isValid = true →
          (workflow.run options values caller? event caller).result.StaysOnCourse workflow.toGraph
            (workflow.startNodes event) options.budget)
        ∧ (options.gate = true → workflow.isValid = false →
          (workflow.run options values caller? event caller).DidNothing caller
            ∧ (workflow.run options values caller? event caller).result.rejected
              = if workflow.enabled then workflow.issues else []) := by
  refine ⟨fun graph => ⟨fun hv => ?_, fun hg hv => ?_⟩,
    fun workflow => ⟨fun hv => ?_, fun hg hv => ?_⟩⟩
  · exact graph.staysOnCourse_of_isValid hv options values caller? event caller
  · rw [Graph.run_eq_idle hg hv]
    exact ⟨⟨rfl, rfl, rfl, rfl⟩, rfl⟩
  · rcases he : workflow.enabled with _ | _
    · rw [Workflow.run_of_disabled he]
      exact Graph.staysOnCourse_of_nil rfl
    · rw [Workflow.run_of_enabled he]
      exact workflow.toGraph.staysOnCourse_of_isValid hv options values caller? event caller
  · rcases he : workflow.enabled with _ | _
    · rw [Workflow.run_of_disabled he]
      exact ⟨⟨rfl, rfl, rfl, rfl⟩, rfl⟩
    · rw [Workflow.run_of_enabled he, Graph.run_eq_idle hg hv]
      exact ⟨⟨rfl, rfl, rfl, rfl⟩, rfl⟩

/-- A workflow that is not enabled, with an edge to a node that does not exist. -/
def Workflow.shelved : Workflow where
  id := "shelved"
  name := ""
  enabled := false
  nodes := [⟨"start", "", .page none, by decide⟩]
  edges := [⟨"stray", "start", .out, "ghost", by decide⟩]
  distinct := by decide

theorem Workflow.isValid_shelved : shelved.isValid = false := by
  rw [Bool.eq_false_iff]
  intro hv
  have hends := Graph.mem_ids_of_isValid hv (List.cons_ne_nil _ _) List.mem_cons_self
  exact absurd hends.2 (by decide)

/-- Both the runs of a valid graph and the gated runs of another. -/
theorem staysOnCourse_run_greeting :
    (Workflow.greeting.isValid = true
      ∧ (Workflow.greeting.run .fourGated [] (none : Option (Caller Unit)) none
          ()).result.StaysOnCourse Workflow.greeting.toGraph (Workflow.greeting.startNodes none) 4)
      ∧ Workflow.shelved.isValid = false
        ∧ (Workflow.shelved.toGraph.run .fourGated [] (none : Option (Caller Unit)) none
            ()).DidNothing ()
        ∧ (Workflow.shelved.toGraph.run .fourGated [] (none : Option (Caller Unit)) none
            ()).result.rejected = Workflow.shelved.issues := by
  have hvalid := Workflow.isValid_greeting
  have hinvalid := Workflow.isValid_shelved
  obtain ⟨hgraph, hworkflow⟩ :=
    staysOnCourse_run .fourGated [] (none : Option (Caller Unit)) none ()
  obtain ⟨hnothing, hissues⟩ := (hgraph Workflow.shelved.toGraph).2 rfl hinvalid
  exact ⟨⟨hvalid, (hworkflow _).1 hvalid⟩, hinvalid, hnothing, hissues⟩

/-- That a workflow is not valid is not told when it is not enabled. -/
theorem rejected_shelved_ne_issues :
    ¬ ∀ (workflow : Workflow) (options : RunOptions), options.gate = true →
      workflow.isValid = false →
        (workflow.run options [] (none : Option (Caller Unit)) none ()).result.rejected
          = workflow.issues := by
  intro h
  have hinvalid := Workflow.isValid_shelved
  have hissues := h Workflow.shelved .fourGated rfl hinvalid
  rw [Workflow.run_of_disabled rfl] at hissues
  rw [Graph.isValid, ← hissues] at hinvalid
  cases hinvalid

end FormAutomation
