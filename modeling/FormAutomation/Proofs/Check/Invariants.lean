import FormAutomation.Proofs.Check.Validity

/-!
# The invariants of a graph

What an author is told about workflows, without saying how it is checked: both ends
of an edge exist, a condition is left by its results and every other node by its one
way on, at most once by each, no edge leads to a trigger, nothing that a run needs is
left open, and no way leads back.

The checks pass over edges that have something else wrong with them: an edge from
nowhere is not looked at for its port, and one on a wrong port is not counted among
those that leave by it.  So each check by itself says less than the invariant that it
is there for; all of them together find nothing exactly if all invariants hold.
-/

namespace FormAutomation

/-! ## What is required -/

/-- A text is given, and it is not empty. -/
def Says (text? : Option String) : Prop :=
  ∃ s ∈ text?, s ≠ ""

/-- Nothing that the action needs is left open. -/
def Action.IsConfigured : Action → Prop
  | .trigger event field => event ≠ none ∧ (event = some .fieldChange → Says field)
  | .page _ => True
  | .callApi endpoint => Says endpoint.url
  | .fetchOptions endpoint options => Says endpoint.url ∧ Says options.targetField
  | .setData mapping => mapping ≠ []
  | .showDialog _ _ => True
  | .redirect url _ => Says url
  | .condition field operator _ => Says field ∧ operator ≠ none

/-- Whether an edge may leave a node of a kind by a port. -/
def NodeKind.Offers (kind : NodeKind) (port : Port) : Prop :=
  if kind = .condition then port = .whenTrue ∨ port = .whenFalse else port = .out

instance (text? : Option String) : Decidable (Says text?) :=
  inferInstanceAs (Decidable (∃ s ∈ text?, s ≠ ""))

instance (action : Action) : Decidable action.IsConfigured :=
  match action with
  | .trigger event field =>
    inferInstanceAs (Decidable (event ≠ none ∧ (event = some .fieldChange → Says field)))
  | .page _ => isTrue trivial
  | .callApi endpoint => inferInstanceAs (Decidable (Says endpoint.url))
  | .fetchOptions endpoint options =>
    inferInstanceAs (Decidable (Says endpoint.url ∧ Says options.targetField))
  | .setData mapping => inferInstanceAs (Decidable (mapping ≠ []))
  | .showDialog _ _ => isTrue trivial
  | .redirect url _ => inferInstanceAs (Decidable (Says url))
  | .condition field operator _ => inferInstanceAs (Decidable (Says field ∧ operator ≠ none))

instance (kind : NodeKind) (port : Port) : Decidable (kind.Offers port) :=
  inferInstanceAs
    (Decidable (if kind = .condition then port = .whenTrue ∨ port = .whenFalse else port = .out))

/-- The invariants of a graph. -/
structure Graph.IsSound (graph : Graph) : Prop where
  /-- both ends of an edge exist -/
  ends : ∀ edge ∈ graph.edges, edge.source ∈ graph.ids ∧ edge.target ∈ graph.ids
  /-- an edge leaves its node by a port of the node -/
  ports : ∀ edge ∈ graph.edges, ∀ node ∈ graph.node? edge.source, node.kind.Offers edge.port
  /-- no two edges leave the same node by the same port -/
  single : graph.edges.Pairwise fun a b => a.source = b.source → a.port ≠ b.port
  /-- no edge leads to a trigger -/
  triggers : ∀ edge ∈ graph.edges, ∀ node ∈ graph.node? edge.target, node.kind ≠ .trigger
  /-- nothing is left open -/
  configured : ∀ node ∈ graph.nodes, node.action.IsConfigured
  /-- no way leads back -/
  acyclic : graph.IsAcyclic

namespace Check

variable {graph : Graph}

/-! ## Edges -/

theorem danglingEdges_eq_nil_iff :
    danglingEdges graph = []
      ↔ ∀ edge ∈ graph.edges, edge.source ∈ graph.ids ∧ edge.target ∈ graph.ids := by
  simp [danglingEdges, Graph.has_iff, or_imp, forall_and]

theorem hasPort_iff {node : Node} {port : Port} :
    hasPort node port = true ↔ node.kind.Offers port := by
  unfold hasPort NodeKind.Offers
  by_cases hk : node.kind = .condition
  · cases port <;> simp [hk]
  · cases port <;> simp [hk]

/-- An edge from an existing node is in order exactly if it leaves the node by a port of
its own that was not taken; then it takes it. -/
theorem portFaults_cons_eq_nil_iff {taken : List (String × Port)} {edge : Edge}
    {rest : List Edge} {node : Node} (hs : graph.node? edge.source = some node) :
    portFaults graph taken (edge :: rest) = []
      ↔ node.kind.Offers edge.port ∧ (edge.source, edge.port) ∉ taken
        ∧ portFaults graph ((edge.source, edge.port) :: taken) rest = [] := by
  have hid : node.id = edge.source := (Graph.node?_eq_some_iff.1 hs).2
  rw [← hasPort_iff]
  simp only [portFaults, hs, hid]
  split
  · next hp =>
    split
    · next ht => simp [ht]
    · next ht => simp [hp, ht]
  · next hp => split <;> simp [hp]

/-- The ports are found in order exactly if every edge from an existing node leaves it
by a port of its own that was not taken, and by another than the edges before. -/
theorem portFaults_eq_nil_iff {taken : List (String × Port)} {edges : List Edge} :
    portFaults graph taken edges = []
      ↔ (∀ edge ∈ edges, ∀ node ∈ graph.node? edge.source,
          node.kind.Offers edge.port ∧ (edge.source, edge.port) ∉ taken)
        ∧ edges.Pairwise fun a b =>
          a.source ∈ graph.ids → a.source = b.source → a.port ≠ b.port := by
  induction edges generalizing taken with
  | nil => simp [portFaults]
  | cons edge rest ih =>
    rw [List.forall_mem_cons, List.pairwise_cons]
    rcases hs : graph.node? edge.source with _ | node
    · -- an edge from nowhere stands in nobody's way
      have hmissing : edge.source ∉ graph.ids := Graph.node?_eq_none_iff.1 hs
      simp only [portFaults, hs, ih]
      simp [hmissing]
    · have hmem : edge.source ∈ graph.ids := by
        rw [← Graph.has_iff, Graph.has, hs]
        rfl
      rw [portFaults_cons_eq_nil_iff hs, ih]
      constructor
      · rintro ⟨hoffers, hfree, hrest, hpairs⟩
        refine ⟨⟨?_, fun other hother node hnode => ?_⟩, fun other hother _ he hport => ?_, hpairs⟩
        · rintro _ ⟨⟩
          exact ⟨hoffers, hfree⟩
        · obtain ⟨hport, hfree⟩ := hrest other hother node hnode
          exact ⟨hport, fun htaken => hfree (List.mem_cons_of_mem _ htaken)⟩
        · refine (hrest other hother node (he ▸ hs)).2 ?_
          rw [← he, ← hport]
          exact List.mem_cons_self
      · rintro ⟨⟨hfirst, hrest⟩, hothers, hpairs⟩
        obtain ⟨hoffers, hfree⟩ := hfirst node rfl
        refine ⟨hoffers, hfree, fun other hother node hnode => ?_, hpairs⟩
        obtain ⟨hport, hfree⟩ := hrest other hother node hnode
        refine ⟨hport, fun htaken => ?_⟩
        rcases List.mem_cons.1 htaken with heq | htaken
        · obtain ⟨he, hp⟩ := Prod.mk.inj heq
          exact hothers other hother hmem he.symm hp.symm
        · exact hfree htaken

theorem enteredTriggers_eq_nil_iff :
    enteredTriggers graph = []
      ↔ ∀ edge ∈ graph.edges, ∀ node ∈ graph.node? edge.target, node.kind ≠ .trigger := by
  simp only [enteredTriggers, List.flatMap_eq_nil_iff, List.map_eq_nil_iff, Graph.triggers,
    Graph.ofKind, Graph.incoming, List.filter_eq_nil_iff, List.mem_filter, beq_iff_eq]
  constructor
  · intro h edge he node hn hk
    obtain ⟨hmem, hid⟩ := Graph.node?_eq_some_iff.1 hn
    exact h node ⟨hmem, hk⟩ edge he hid.symm
  · rintro h node ⟨hmem, hk⟩ edge he ht
    exact h edge he node (ht ▸ Graph.node?_of_mem hmem) hk

/-- Nothing is wrong with the edges exactly if the invariants about them hold. -/
theorem structureFaults_eq_nil_iff :
    structureFaults graph = []
      ↔ (∀ edge ∈ graph.edges, edge.source ∈ graph.ids ∧ edge.target ∈ graph.ids)
        ∧ (∀ edge ∈ graph.edges, ∀ node ∈ graph.node? edge.source, node.kind.Offers edge.port)
        ∧ (graph.edges.Pairwise fun a b => a.source = b.source → a.port ≠ b.port)
        ∧ ∀ edge ∈ graph.edges, ∀ node ∈ graph.node? edge.target, node.kind ≠ .trigger := by
  rw [structureFaults, List.append_eq_nil_iff, List.append_eq_nil_iff, danglingEdges_eq_nil_iff,
    portFaults_eq_nil_iff, enteredTriggers_eq_nil_iff, and_assoc, and_assoc]
  refine and_congr_right fun hends => ?_
  -- where no edge comes from nowhere, the ports of all edges are looked at
  have hpairs : (graph.edges.Pairwise fun a b =>
        a.source ∈ graph.ids → a.source = b.source → a.port ≠ b.port)
      ↔ graph.edges.Pairwise fun a b => a.source = b.source → a.port ≠ b.port :=
    List.Pairwise.iff_of_mem fun ha _ => by simp [(hends _ ha).1]
  simp [hpairs]

/-! ## Configurations -/

theorem isLeftOpen_eq_false_iff {text? : Option String} :
    isLeftOpen text? = false ↔ Says text? := by
  cases text? <;> simp [isLeftOpen, Says]

theorem partIf_eq_nil_iff {isMissing : Bool} {part : MissingPart} :
    partIf isMissing part = [] ↔ isMissing = false := by
  cases isMissing <;> simp [partIf]

/-- An action lacks nothing exactly if it is configured. -/
theorem missingParts_eq_nil_iff {action : Action} :
    missingParts action = [] ↔ action.IsConfigured := by
  cases action with
  | trigger event field =>
    rcases event with _ | _ | _ | _ <;>
      simp [missingParts, Action.IsConfigured, partIf_eq_nil_iff, isLeftOpen_eq_false_iff]
  | setData mapping =>
    cases mapping <;> simp [missingParts, Action.IsConfigured, partIf_eq_nil_iff]
  | condition field operator expected =>
    cases operator <;>
      simp [missingParts, Action.IsConfigured, partIf_eq_nil_iff, isLeftOpen_eq_false_iff]
  | _ => simp [missingParts, Action.IsConfigured, partIf_eq_nil_iff, isLeftOpen_eq_false_iff]

theorem configurationFaults_eq_nil_iff :
    configurationFaults graph = [] ↔ ∀ node ∈ graph.nodes, node.action.IsConfigured := by
  simp only [configurationFaults, List.flatMap_eq_nil_iff, List.map_eq_nil_iff,
    missingParts_eq_nil_iff]

end Check

namespace Graph

open Check

/-! ## Validity -/

/-- A graph with nodes is valid exactly if its invariants hold. -/
theorem isValid_iff_isSound (graph : Graph) (h : graph.nodes ≠ []) :
    graph.isValid = true ↔ graph.IsSound := by
  rw [isValid_iff h, structureFaults_eq_nil_iff, configurationFaults_eq_nil_iff,
    cycles_eq_nil_iff]
  constructor
  · rintro ⟨⟨hends, hports, hsingle, htriggers⟩, hconfigured, hacyclic⟩
    exact ⟨hends, hports, hsingle, htriggers, hconfigured, hacyclic⟩
  · rintro ⟨hends, hports, hsingle, htriggers, hconfigured, hacyclic⟩
    exact ⟨⟨hends, hports, hsingle, htriggers⟩, hconfigured, hacyclic⟩

/-- Large amounts are asked about. -/
def approval : Graph where
  id := "approval"
  nodes :=
    [⟨"order", "", .trigger (some .formSubmit) none, by decide⟩,
     ⟨"large", "", .condition (some "amount") (some .greaterThan) (some (.int 1000)), by decide⟩,
     ⟨"confirm", "", .showDialog none (some "Are you sure?"), by decide⟩,
     ⟨"finish", "", .redirect (some "/thanks") false, by decide⟩]
  edges :=
    [⟨"weigh", "order", .out, "large", by decide⟩,
     ⟨"yes", "large", .whenTrue, "confirm", by decide⟩,
     ⟨"no", "large", .whenFalse, "finish", by decide⟩]
  distinct := by decide

/-- The same with both answers on one port, which conditions do not have. -/
def hastyApproval : Graph :=
  { approval with
    edges :=
      [⟨"weigh", "order", .out, "large", by decide⟩,
       ⟨"yes", "large", .out, "confirm", by decide⟩,
       ⟨"no", "large", .out, "finish", by decide⟩] }

/-- The invariants hold of the first and not of the second. -/
theorem isValid_iff_isSound_approval :
    (approval.nodes ≠ [] ∧ approval.isValid = true ∧ approval.IsSound)
      ∧ hastyApproval.nodes ≠ [] ∧ hastyApproval.isValid = false ∧ ¬ hastyApproval.IsSound := by
  have hsound : approval.IsSound :=
    { ends := by decide
      ports := by decide
      single := by decide
      triggers := by decide
      configured := by decide
      acyclic := cycles_eq_nil_iff.1 (by cbv) }
  have hunsound : ¬ hastyApproval.IsSound := fun h => absurd h.ports (by decide)
  refine ⟨⟨by decide, (isValid_iff_isSound approval (by decide)).2 hsound, hsound⟩, by decide, ?_,
    hunsound⟩
  rw [Bool.eq_false_iff]
  intro hv
  exact hunsound ((isValid_iff_isSound hastyApproval (by decide)).1 hv)

end Graph

end FormAutomation
