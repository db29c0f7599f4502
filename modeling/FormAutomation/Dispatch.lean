import FormAutomation.Graph.Basic
import FormAutomation.Template

/-!
# Which workflows an event starts

A form keeps a list of workflows and asks which of them an event concerns.  A
workflow says so by its first trigger; workflows from before there were triggers
are recognised by what they do.  Workflows that are not enabled are passed over.
-/

namespace FormAutomation

/-- Something that happened on a form. -/
structure FormEvent where
  /-- the name of what happened, if it was told -/
  name : Option String
  /-- the field that it happened to -/
  field : Option String
  deriving DecidableEq

/-- An optional text that says something. -/
def filled (text? : Option String) : Option String :=
  text?.filter (· ≠ "")

namespace FormEvent

/-- Whether the event is the one that a trigger waits for.  A trigger on field
changes that names a field waits for changes of that field only, and one that names
no event waits for an event without a name. -/
def starts (event : FormEvent) (awaited : Option EventKind) (field : Option String) : Bool :=
  awaited.map EventKind.name == event.name
    && (awaited != some .fieldChange || (filled field).isNone || field == event.field)

/-- Whether the event starts a run at a node. -/
def startsAt (event : FormEvent) (node : Node) : Bool :=
  match node.action with
  | .trigger awaited field => event.starts awaited field
  | _ => false

end FormEvent

namespace Graph

/-- Where a run starts: at the triggers that wait for the event, at all triggers
when nothing happened, and in a graph without triggers where it falls back
to. -/
def startNodes (graph : Graph) (event : Option FormEvent) : List Node :=
  match event with
  | none => graph.starts
  | some event =>
    if graph.triggers.isEmpty then graph.fallbackStarts
    else graph.triggers.filter event.startsAt

/-- The event that the first trigger waits for; without one, a graph that fills
select fields is for opening a page. -/
def awaitedEvent (graph : Graph) : Option EventKind :=
  match graph.triggers.head?.map Node.action with
  | some (.trigger (some kind) _) => some kind
  | _ => if (graph.ofKind .fetchOptions).isEmpty then none else some .pageLoad

/-- The field that a trigger on field changes names. -/
def triggerField? (node : Node) : Option String :=
  match node.action with
  | .trigger (some .fieldChange) field => filled field
  | _ => none

/-- The names that the templates of a request refer to. -/
def requestReferences (endpoint : Endpoint) : List String :=
  ([endpoint.url, endpoint.bodyTemplate].filterMap filled).flatMap Template.references

/-- The names that a node reads, or fills. -/
def readNames (node : Node) : List String :=
  match node.action with
  | .condition field _ _ => (filled field).toList
  | .callApi endpoint => requestReferences endpoint
  | .fetchOptions endpoint options =>
    (filled options.targetField).toList ++ requestReferences endpoint
  | _ => []

/-- The fields whose changes concern the graph: those its triggers name, or else
all names that its nodes read. -/
def watchedFields (graph : Graph) : List String :=
  let named := graph.triggers.filterMap triggerField?
  if named.isEmpty then (graph.nodes.flatMap readNames).eraseDups else named.eraseDups

end Graph

namespace Workflow

/-- The enabled workflows that wait for a kind of event. -/
def awaiting (kind : EventKind) (workflows : List Workflow) : List Workflow :=
  workflows.filter fun workflow => workflow.enabled && workflow.awaitedEvent == some kind

/-- The workflows that opening a page starts. -/
def onPageLoad (workflows : List Workflow) : List Workflow :=
  awaiting .pageLoad workflows

/-- The workflows that sending the form starts. -/
def onSubmit (workflows : List Workflow) : List Workflow :=
  awaiting .formSubmit workflows

/-- The workflows that a change of a field starts: those that wait for field
changes, or for no event in particular, and watch the field. -/
def onFieldChange (field : String) (workflows : List Workflow) : List Workflow :=
  workflows.filter fun workflow =>
    workflow.enabled
      && (workflow.awaitedEvent == some .fieldChange || workflow.awaitedEvent == none)
      && workflow.watchedFields.contains field

end Workflow

end FormAutomation
