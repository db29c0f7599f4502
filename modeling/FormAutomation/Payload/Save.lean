import FormAutomation.Graph.Basic

/-!
# Saving graphs

A graph is written as a payload in its present shape: every field under its
first name, what was left open left out.
-/

namespace FormAutomation

/-- The entries whose value is there. -/
def presentFields (fields : List (String × Option Value)) : Entries Value :=
  fields.filterMap fun (name, v?) => v?.map (name, ·)

/-- An optional text as an optional value. -/
def textValue? (text? : Option String) : Option Value :=
  text?.map .text

/-- The fields of a request. -/
def Endpoint.fields (endpoint : Endpoint) : List (String × Option Value) :=
  [("url", textValue? endpoint.url),
   ("method", some (.text endpoint.method.name)),
   ("headers", some (.object (endpoint.headers.map fun (name, s) => (name, .text s)))),
   ("bodyTemplate", textValue? endpoint.bodyTemplate)]

/-- The fields that tell what becomes of a response. -/
def OptionSource.fields (options : OptionSource) : List (String × Option Value) :=
  [("responsePath", textValue? options.responsePath),
   ("labelKey", some (.text options.labelKey)),
   ("valueKey", some (.text options.valueKey)),
   ("targetFieldId", textValue? options.targetField)]

/-- A value to be set. -/
def Assignment.toPayload (assignment : Assignment) : Value :=
  .object [("from", .text assignment.source), ("to", .text assignment.target)]

/-- The configuration of an action. -/
def Action.fields : Action → List (String × Option Value)
  | .trigger event field =>
    [("triggerType", textValue? (event.map EventKind.name)),
     ("triggerFieldId", textValue? field)]
  | .page id => [("pageId", textValue? id)]
  | .callApi endpoint => endpoint.fields
  | .fetchOptions endpoint options => endpoint.fields ++ options.fields
  | .setData mapping => [("mapping", some (.list (mapping.map Assignment.toPayload)))]
  | .showDialog title message =>
    [("title", textValue? title), ("message", textValue? message)]
  | .redirect url newTab => [("url", textValue? url), ("newTab", some (.bool newTab))]
  | .condition field operator value =>
    [("field", textValue? field),
     ("operator", textValue? (operator.map Condition.Operator.name)),
     ("value", value.map Scalar.toValue)]

/-- A node. -/
def Node.toPayload (node : Node) : Value :=
  .object [("id", .text node.id), ("label", .text node.label),
    ("type", .text node.kind.name), ("config", .object (presentFields node.action.fields))]

/-- An edge. -/
def Edge.toPayload (edge : Edge) : Value :=
  .object [("id", .text edge.id), ("sourceNodeId", .text edge.source),
    ("sourcePort", .text edge.port.name), ("targetNodeId", .text edge.target)]

/-- The fields of a graph. -/
def Graph.fields (graph : Graph) : Entries Value :=
  [("id", .text graph.id), ("nodes", .list (graph.nodes.map Node.toPayload)),
   ("edges", .list (graph.edges.map Edge.toPayload))]

/-- A graph. -/
def Graph.toPayload (graph : Graph) : Value :=
  .object graph.fields

/-- A workflow. -/
def Workflow.toPayload (workflow : Workflow) : Value :=
  .object (workflow.fields
    ++ [("name", .text workflow.name), ("enabled", .bool workflow.enabled)])

end FormAutomation
