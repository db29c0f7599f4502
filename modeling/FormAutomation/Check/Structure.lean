import FormAutomation.Check.Finding

/-!
# Edges and ports

Both ends of an edge have to exist.  A condition is left by its two result
ports, any other node by its one way on, and each port by one edge only; an edge
on a wrong port is not counted among those that leave by it.  No edge leads to a
trigger.
-/

namespace FormAutomation.Check

/-- The ends of edges that do not exist. -/
def danglingEdges (graph : Graph) : List Finding :=
  graph.edges.flatMap fun edge =>
    ([edge.source, edge.target].filter fun id => !graph.has id).map (.dangling edge)

/-- Whether a node has a port. -/
def hasPort (node : Node) (port : Port) : Bool :=
  (node.kind == .condition) != (port == .out)

/-- What is wrong with the ports of edges, the ports in `taken` being left by an
earlier edge already.  Edges from nowhere are passed over. -/
def portFaults (graph : Graph) : List (String × Port) → List Edge → List Finding
  | _, [] => []
  | taken, edge :: rest =>
    match graph.node? edge.source with
    | none => portFaults graph taken rest
    | some node =>
      if hasPort node edge.port then
        if (node.id, edge.port) ∈ taken then .portTaken node edge :: portFaults graph taken rest
        else portFaults graph ((node.id, edge.port) :: taken) rest
      else if edge.port = .out then .outOfCondition node edge :: portFaults graph taken rest
      else .branchOfOther node edge :: portFaults graph taken rest

/-- The edges that lead to triggers. -/
def enteredTriggers (graph : Graph) : List Finding :=
  graph.triggers.flatMap fun node => (graph.incoming node.id).map (.triggerEntered node)

/-- What is wrong with the edges. -/
def structureFaults (graph : Graph) : List Finding :=
  danglingEdges graph ++ portFaults graph [] graph.edges ++ enteredTriggers graph

end FormAutomation.Check
