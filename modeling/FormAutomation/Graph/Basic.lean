import FormAutomation.Graph.Action

/-!
# Workflow graphs

A workflow is a graph of nodes joined by edges.  Nodes have ids, no two of them
the same; edges name the nodes they join, which need not exist.  The order of
nodes and edges is that in which the author put them, and it matters: it decides
where a run starts and which of several edges on a port is followed.
-/

namespace FormAutomation

/-- Where an edge leaves a node. -/
inductive Port where
  /-- the way on from any node but a condition -/
  | out
  /-- the way on from a condition that holds -/
  | whenTrue
  /-- the way on from a condition that does not hold -/
  | whenFalse
  deriving DecidableEq

namespace Port

/-- The ports in the order in which messages list them. -/
def all : List Port :=
  [.out, .whenTrue, .whenFalse]

/-- The name of a port. -/
def name : Port → String
  | .out => "out"
  | .whenTrue => "true"
  | .whenFalse => "false"

/-- The port of a name. -/
def ofName? (name : String) : Option Port :=
  all.find? (·.name == name)

/-- The port of a condition's result. -/
def ofBranch (result : Bool) : Port :=
  if result then .whenTrue else .whenFalse

theorem ofName?_name (port : Port) : ofName? port.name = some port := by
  cases port <;> rfl

end Port

/-- A node. -/
structure Node where
  /-- the name that edges and references use -/
  id : String
  /-- the name that people see; empty for none -/
  label : String
  /-- what it does -/
  action : Action
  /-- the id says something -/
  id_ne : id ≠ ""
  deriving DecidableEq

/-- The kind of a node. -/
def Node.kind (node : Node) : NodeKind :=
  node.action.kind

/-- The name of a node in messages. -/
def Node.displayName (node : Node) : String :=
  if node.label = "" then node.id else node.label

/-- An edge. -/
structure Edge where
  /-- the name of the edge; several may have the same -/
  id : String
  /-- the id of the node it leaves -/
  source : String
  /-- where it leaves that node -/
  port : Port
  /-- the id of the node it leads to -/
  target : String
  /-- the id says something -/
  id_ne : id ≠ ""
  deriving DecidableEq

/-- A graph of nodes. -/
structure Graph where
  /-- the name of the graph -/
  id : String
  /-- the nodes in the author's order -/
  nodes : List Node
  /-- the edges in the author's order -/
  edges : List Edge
  /-- no two nodes have the same id -/
  distinct : (nodes.map (·.id)).Nodup
  deriving DecidableEq

/-- A graph as a form keeps it. -/
structure Workflow extends Graph where
  /-- the name that people see -/
  name : String
  /-- whether it is run at all -/
  enabled : Bool
  deriving DecidableEq

namespace Graph

/-- The ids of the nodes. -/
def ids (graph : Graph) : List String :=
  graph.nodes.map (·.id)

/-- The node of an id. -/
def node? (graph : Graph) (id : String) : Option Node :=
  graph.nodes.find? (·.id == id)

/-- Whether there is a node of an id. -/
def has (graph : Graph) (id : String) : Bool :=
  (graph.node? id).isSome

/-- The edges that leave a node. -/
def outgoing (graph : Graph) (id : String) : List Edge :=
  graph.edges.filter (·.source == id)

/-- The edges that leave a node at a port. -/
def outgoingOn (graph : Graph) (id : String) (port : Port) : List Edge :=
  graph.edges.filter fun edge => edge.source == id && edge.port == port

/-- The edges that lead to a node. -/
def incoming (graph : Graph) (id : String) : List Edge :=
  graph.edges.filter (·.target == id)

/-- The nodes of a kind. -/
def ofKind (graph : Graph) (kind : NodeKind) : List Node :=
  graph.nodes.filter (·.kind == kind)

/-- The triggers. -/
def triggers (graph : Graph) : List Node :=
  graph.ofKind .trigger

/-- The nodes that no edge leads to. -/
def roots (graph : Graph) : List Node :=
  graph.nodes.filter fun node => !graph.edges.any (·.target == node.id)

/-- Where a graph without triggers starts: its roots, or its first node when
every node has an edge that leads to it. -/
def fallbackStarts (graph : Graph) : List Node :=
  if graph.roots.isEmpty then graph.nodes.take 1 else graph.roots

/-- Where a run of the graph may start: at its triggers, if it has any. -/
def starts (graph : Graph) : List Node :=
  if graph.triggers.isEmpty then graph.fallbackStarts else graph.triggers

/-- The ids that the edges of a node lead to, as far as nodes have them. -/
def successors (graph : Graph) (id : String) : List String :=
  ((graph.outgoing id).map (·.target)).filter graph.has

/-! ## Laws -/

theorem has_iff {graph : Graph} {id : String} : graph.has id = true ↔ id ∈ graph.ids := by
  simp [has, node?, ids, List.find?_isSome]

theorem node?_eq_none_iff {graph : Graph} {id : String} :
    graph.node? id = none ↔ id ∉ graph.ids := by
  rw [← has_iff, has]
  cases graph.node? id <;> simp

/-- A node of the graph is the one that its id names. -/
theorem node?_of_mem {graph : Graph} {node : Node} (h : node ∈ graph.nodes) :
    graph.node? node.id = some node := by
  have distinct := graph.distinct
  unfold node?
  generalize graph.nodes = nodes at h distinct
  induction nodes with
  | nil => simp at h
  | cons first rest ih =>
    simp only [List.map_cons, List.nodup_cons, List.mem_map, not_exists, not_and] at distinct
    rcases List.mem_cons.1 h with rfl | h
    · simp
    · have : first.id ≠ node.id := fun e => distinct.1 node h e.symm
      simp [this, ih h distinct.2]

/-- What an id names is the node of the graph that has it. -/
theorem node?_eq_some_iff {graph : Graph} {id : String} {node : Node} :
    graph.node? id = some node ↔ node ∈ graph.nodes ∧ node.id = id := by
  constructor
  · intro h
    exact ⟨List.mem_of_find?_eq_some h, by simpa using List.find?_some h⟩
  · rintro ⟨hm, rfl⟩
    exact node?_of_mem hm

/-- A run of the graph starts at nodes of the graph. -/
theorem mem_nodes_of_mem_starts {graph : Graph} {node : Node} (h : node ∈ graph.starts) :
    node ∈ graph.nodes := by
  unfold starts at h
  split at h
  · unfold fallbackStarts at h
    split at h
    · exact List.mem_of_mem_take h
    · exact (List.mem_filter.1 h).1
  · exact (List.mem_filter.1 h).1

theorem mem_successors {graph : Graph} {id target : String} :
    target ∈ graph.successors id
      ↔ target ∈ graph.ids ∧ ∃ edge ∈ graph.edges, edge.source = id ∧ edge.target = target := by
  simp only [successors, outgoing, List.mem_filter, List.mem_map, has_iff, beq_iff_eq]
  constructor
  · rintro ⟨⟨edge, ⟨he, hs⟩, ht⟩, hm⟩
    exact ⟨hm, edge, he, hs, ht⟩
  · rintro ⟨hm, edge, he, hs, ht⟩
    exact ⟨⟨edge, ⟨he, hs⟩, ht⟩, hm⟩

end Graph

end FormAutomation
