import FormAutomation.Check.Issue
import FormAutomation.Graph.Basic

/-!
# Findings

What the checks find out about a graph, each finding with the nodes and edges it
is about.  The issue that is reported says the same in words.
-/

namespace FormAutomation

/-- A part of a node's configuration that is missing. -/
inductive MissingPart where
  /-- the event of a trigger -/
  | event
  /-- the field of a trigger on field changes -/
  | watchedField
  /-- the address of a request -/
  | url
  /-- the field that gets options -/
  | targetField
  /-- the field of a condition -/
  | comparedField
  /-- the operator of a condition -/
  | operator
  /-- the address of a redirect -/
  | redirectUrl
  /-- the values to be set -/
  | mapping
  deriving DecidableEq

/-- What is said of a missing part of a node. -/
def MissingPart.message (name : String) : MissingPart → String
  | .event => s!"Trigger \"{name}\" has no event type set."
  | .watchedField => s!"Field-change trigger \"{name}\" needs a field to watch."
  | .url => s!"\"{name}\" is missing an API URL."
  | .targetField => s!"\"{name}\" is missing a target select field."
  | .comparedField => s!"\"{name}\" is missing a condition field."
  | .operator => s!"\"{name}\" is missing a condition operator."
  | .redirectUrl => s!"\"{name}\" is missing a redirect URL."
  | .mapping => s!"\"{name}\" has no data mapping entries."

/-- Something that a check finds out about a graph. -/
inductive Finding where
  /-- there are no nodes -/
  | empty
  /-- an edge names a node that does not exist -/
  | dangling (edge : Edge) (missing : String)
  /-- an edge leaves a condition by the port of other nodes -/
  | outOfCondition (node : Node) (edge : Edge)
  /-- an edge leaves another node by a port of conditions -/
  | branchOfOther (node : Node) (edge : Edge)
  /-- an edge leaves a node by a port that an earlier edge leaves it by -/
  | portTaken (node : Node) (edge : Edge)
  /-- an edge leads to a trigger -/
  | triggerEntered (node : Node) (edge : Edge)
  /-- there is no trigger -/
  | noTrigger
  /-- no way leads from a start to a node -/
  | unreachable (node : Node)
  /-- a part of a node's configuration is missing -/
  | missing (node : Node) (part : MissingPart)
  /-- a condition has no edge for one of its results -/
  | openBranch (node : Node) (result : Bool)
  /-- a way leads from the first of these nodes through the others back to it -/
  | cycle (ids : List String)
  deriving DecidableEq

namespace Finding

/-- An error. -/
def error (code message : String) (node edge hint : Option String) : Issue :=
  { code, severity := Issue.errorWord, message, node, edge, hint }

/-- A warning. -/
def warning (code message : String) (node hint : Option String) : Issue :=
  { code, severity := Issue.warningWord, message, node, edge := none, hint }

/-- A finding in words. -/
def issue : Finding → Issue
  | .empty => warning "GRAPH_EMPTY" "Workflow has no nodes." none none
  | .dangling edge id =>
    error "EDGE_DANGLING" s!"Edge '{edge.id}' references missing node '{id}'." none edge.id
      "Remove the edge or reconnect it to an existing node."
  | .outOfCondition node edge =>
    error "EDGE_PORT_INVALID"
      (s!"Condition \"{node.displayName}\" cannot use the \"out\" port; "
        ++ "connect \"true\" or \"false\".")
      node.id edge.id none
  | .branchOfOther node edge =>
    error "EDGE_PORT_INVALID"
      (s!"\"{node.displayName}\" only has an \"out\" port "
        ++ s!"but edge uses \"{edge.port.name}\".")
      node.id edge.id none
  | .portTaken node edge =>
    error "EDGE_PORT_DUPLICATE"
      s!"\"{node.displayName}\" has more than one edge on port \"{edge.port.name}\"."
      node.id edge.id "Only the first edge on a port is followed during execution."
  | .triggerEntered node edge =>
    error "TRIGGER_HAS_INCOMING"
      s!"Trigger \"{node.displayName}\" cannot have incoming edges." node.id edge.id none
  | .noTrigger =>
    warning "TRIGGER_MISSING" "No trigger node; the workflow will not fire automatically." none
      "Add a trigger node to specify when it should run."
  | .unreachable node =>
    warning "NODE_UNREACHABLE" s!"\"{node.displayName}\" is not reachable from any trigger."
      node.id "Remove it or connect it with a valid edge."
  | .missing node part =>
    error "CONFIG_MISSING" (part.message node.displayName) node.id none none
  | .openBranch node result =>
    let port := (Port.ofBranch result).name
    warning "BRANCH_INCOMPLETE"
      s!"\"{node.displayName}\" has no \"{port}\" branch; the run stops there when it is taken."
      node.id none
  | .cycle ids =>
    let way := " -> ".intercalate (ids ++ ids.take 1)
    error "GRAPH_CYCLE"
      (s!"Workflow contains a cycle ({way}); "
        ++ "execution would loop until the step budget aborts it.")
      ids.head? none "Break the loop or route it through a condition that exits."

end Finding

end FormAutomation
