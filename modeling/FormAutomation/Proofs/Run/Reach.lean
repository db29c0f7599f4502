import FormAutomation.Proofs.Check.Reach
import FormAutomation.Proofs.Run.Chain

/-!
# Runs keep to what can be reached

A run starts at nodes where it may start and goes on along edges, so it comes by nodes
only to which a way leads from such a node.  Those that are reported as not reachable are
the others: none of them is executed, nor is the budget spent in front of it.
-/

namespace FormAutomation

namespace Graph

/-- The ids of the nodes that are reported as not reachable. -/
def reportedUnreachable (graph : Graph) : List String :=
  (graph.issuesOf ["NODE_UNREACHABLE"]).filterMap (·.node)

/-- The events are about nodes that can be reached. -/
structure KeepsToReached (graph : Graph) (events : List Event) : Prop where
  /-- a way leads to the node of an event -/
  reached : ∀ event ∈ events, ∀ node ∈ event.node?, graph.IsReached node.id
  /-- so no event is about one that is reported -/
  unreported : ∀ event ∈ events, event.nodeId ∉ graph.reportedUnreachable

variable {graph : Graph} {budget left : Nat} {node target : Node} {trail events : List Event}

/-! ## Trails -/

/-- A way can be gone on with along an edge between nodes. -/
theorem IsReached.next {edge : Edge} (h : graph.IsReached node.id) (he : edge ∈ graph.edges)
    (hs : edge.source = node.id) (hn : graph.node? node.id = some node)
    (ht : graph.node? edge.target = some target) : graph.IsReached target.id := by
  obtain ⟨start, hstart, hway⟩ := h
  obtain ⟨hmem, hid⟩ := node?_eq_some_iff.1 ht
  have hnode : node ∈ graph.nodes := (node?_eq_some_iff.1 hn).1
  have hjoined : graph.Joined node.id target.id :=
    ⟨List.mem_map_of_mem hnode, List.mem_map_of_mem hmem, edge, he, hs, hid.symm⟩
  exact ⟨start, hstart, hway.tail hjoined⟩

/-- A trail does not leave what can be reached. -/
theorem Trail.isReached (h : graph.Trail budget left node trail)
    (hr : graph.IsReached node.id) :
    ∀ event ∈ trail, ∀ other ∈ event.node?, graph.IsReached other.id := by
  induction h with
  | exhausted hn | failed hn | ended hn he =>
    intro event hevent other hother
    obtain rfl := List.mem_singleton.1 hevent
    obtain rfl := Option.some.inj hother
    exact hr
  | lost hn he ht =>
    intro event hevent other hother
    rcases List.mem_cons.1 hevent with rfl | hevent
    · obtain rfl := Option.some.inj hother
      exact hr
    · -- there is no node that the run is lost at
      obtain rfl := List.mem_singleton.1 hevent
      cases hother
  | next hn he ht htrail ih =>
    intro event hevent other hother
    rcases List.mem_cons.1 hevent with rfl | hevent
    · obtain rfl := Option.some.inj hother
      exact hr
    · obtain ⟨hmem, hsource⟩ := edge_of_edgeAfter? he
      exact ih (hr.next hmem hsource hn ht) event hevent other hother

/-! ## Runs -/

/-- Only nodes of the graph are reported, and only those to which no way leads. -/
theorem mem_reportedUnreachable_iff {id : String} :
    id ∈ graph.reportedUnreachable ↔ id ∈ graph.ids ∧ ¬ graph.IsReached id := by
  have hreported : graph.reportedUnreachable
      = (graph.nodes.filter fun node => ¬ graph.IsReached node.id).map (·.id) := by
    rw [reportedUnreachable, issuesOf_unreachable_eq, List.filterMap_map]
    exact congrFun List.filterMap_eq_map' _
  rw [hreported]
  simp only [ids, List.mem_map, List.mem_filter, decide_eq_true_eq]
  constructor
  · rintro ⟨node, ⟨hmem, hnot⟩, rfl⟩
    exact ⟨⟨node, hmem, rfl⟩, hnot⟩
  · rintro ⟨⟨node, hmem, rfl⟩, hnot⟩
    exact ⟨node, ⟨hmem, hnot⟩, rfl⟩

/-- Events of nodes that can be reached are about none that is reported. -/
theorem keepsToReached_of_reached
    (h : ∀ event ∈ events, ∀ node ∈ event.node?, graph.IsReached node.id)
    (hn : ∀ event ∈ events, event.node? = graph.node? event.nodeId) :
    graph.KeepsToReached events := by
  refine ⟨h, fun event hevent hreported => ?_⟩
  obtain ⟨hid, hnot⟩ := mem_reportedUnreachable_iff.1 hreported
  obtain ⟨node, hnode⟩ := Option.isSome_iff_exists.1 (has_iff.2 hid)
  have hreached := h event hevent node ((hn event hevent).trans hnode)
  rw [(node?_eq_some_iff.1 hnode).2] at hreached
  exact hnot hreached

variable {σ : Type}

/-- A run keeps to what can be reached. -/
theorem keepsToReached_run (graph : Graph) (options : RunOptions) (values : Context)
    (caller? : Option (Caller σ)) (event : Option FormEvent) (caller : σ) :
    graph.KeepsToReached (graph.run options values caller? event caller).result.events := by
  refine keepsToReached_of_reached (fun entry hentry => ?_) fun entry hentry =>
    named_of_mem_events hentry
  obtain ⟨start, hstart, left, trail, htrail, hmem⟩ := exists_trail_of_mem hentry
  exact htrail.isReached ⟨start, mem_starts_of_mem_startNodes hstart, .refl⟩ entry hmem

end Graph

variable {σ : Type}

/-- The nodes that are reported as not reachable are those to which no way leads from where
a run may start, each once and in the author's order, and no run comes by any of them. -/
theorem unreachable_exact (options : RunOptions) (values : Context)
    (caller? : Option (Caller σ)) (event : Option FormEvent) (caller : σ) :
    (∀ graph : Graph,
        graph.issuesOf ["NODE_UNREACHABLE"]
            = (graph.nodes.filter fun node => ¬ graph.IsReached node.id).map
              (fun node => (Finding.unreachable node).issue)
          ∧ graph.KeepsToReached (graph.run options values caller? event caller).result.events)
      ∧ ∀ workflow : Workflow,
        workflow.KeepsToReached
          (workflow.run options values caller? event caller).result.events := by
  refine ⟨fun graph => ⟨graph.issuesOf_unreachable_eq, ?_⟩, fun workflow => ?_⟩
  · exact graph.keepsToReached_run options values caller? event caller
  · cases he : workflow.enabled with
    | false =>
      rw [Workflow.run_of_disabled he]
      exact Graph.keepsToReached_of_reached (fun _ h => absurd h List.not_mem_nil)
        fun _ h => absurd h List.not_mem_nil
    | true =>
      rw [Workflow.run_of_enabled he]
      exact workflow.keepsToReached_run options values caller? event caller

/-- Two pages lead to each other, and the one on which a run starts leads to neither. -/
def Graph.island : Graph where
  id := "island"
  nodes :=
    [⟨"east", "", .page none, by decide⟩, ⟨"mainland", "", .page none, by decide⟩,
     ⟨"west", "", .page none, by decide⟩]
  edges :=
    [⟨"outward", "east", .out, "west", by decide⟩, ⟨"homeward", "west", .out, "east", by decide⟩]
  distinct := by decide

example : Graph.island.reportedUnreachable = ["east", "west"] := by cbv

end FormAutomation
