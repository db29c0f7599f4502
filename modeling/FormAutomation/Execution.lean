import FormAutomation.Call
import FormAutomation.Graph.Basic
import FormAutomation.Template

/-!
# Executing one node

Executing a node reads the context and yields an outcome: what the node did, or
why it failed.  A node that fails has done nothing but perhaps make a request.
What a node changes in the context is part of its outcome; the context itself is
left as it is.
-/

namespace FormAutomation

/-! ## Outcomes -/

/-- An option of a select field. -/
structure SelectOption where
  /-- what is shown -/
  label : String
  /-- what is stored -/
  value : String
  deriving DecidableEq

/-- The option as an object. -/
def SelectOption.toValue (choice : SelectOption) : Value :=
  .object [("label", .text choice.label), ("value", .text choice.value)]

/-- A page to be opened. -/
structure Redirect where
  /-- its address -/
  url : String
  /-- whether in a tab of its own -/
  newTab : Bool
  deriving DecidableEq

/-- A message to be shown. -/
structure Dialog where
  /-- its title -/
  title : String
  /-- its text -/
  message : String
  deriving DecidableEq

/-- The message as an object. -/
def Dialog.toValue (dialog : Dialog) : Value :=
  .object [("title", .text dialog.title), ("message", .text dialog.message)]

/-- What a node tells about what it did. -/
inductive Report where
  /-- nothing -/
  | nothing
  /-- a value -/
  | value (v : Value)
  /-- what a condition compared, and whether it held -/
  | comparison (field : String) (operator : Condition.Operator) (actual : Context.Reading)
      (expected : Option Scalar) (result : Bool)

/-- The report as a value.  A condition that read the context as a whole shows
the context that it is looked at in. -/
def Report.toValue (context : Context) : Report → Value
  | .nothing => .null
  | .value v => v
  | .comparison field operator actual expected result =>
    .object [("field", .text field), ("operator", .text operator.name),
      ("actual", actual.toValue context),
      ("expected", (expected.map Scalar.toValue).getD .null), ("result", .bool result)]

/-- What a node did. -/
structure Effect where
  /-- what it tells -/
  report : Report
  /-- the result of a condition -/
  branch : Option Bool := none
  /-- what it sets in the context -/
  patch : Entries Value := []
  /-- the values that it sets on the form -/
  fieldUpdates : Entries Value := []
  /-- the options that it gives to select fields -/
  optionUpdates : Entries (List SelectOption) := []
  /-- the page that it opens -/
  redirect : Option Redirect := none
  /-- the message that it shows -/
  dialog : Option Dialog := none

/-- Why a node fails. -/
inductive NodeFault where
  /-- there is no caller to make its request -/
  | noCaller (node : String)
  /-- its request has no address -/
  | noRequestUrl (node : String)
  /-- its redirect has no address -/
  | noRedirectUrl (node : String)
  /-- its condition is incomplete -/
  | incomplete (node : String)
  /-- its call failed -/
  | callFailed (request : Request) (message : String)
  /-- the caller says that the node fails -/
  | toldByCaller (message : String)
  /-- its condition cannot be evaluated -/
  | condition (fault : Condition.Fault)
  /-- its call took too long -/
  | timeout (node : String) (seconds : Binary64)
  /-- there is no such kind of node -/
  | unknownKind (name : String)
  /-- the node has no configuration, so it lacks this part of it -/
  | unconfigured (part : String)

/-- What is said of a fault. -/
def NodeFault.message : NodeFault → String
  | .noCaller node => s!"Node '{node}' needs a call capability but none was provided."
  | .noRequestUrl node => s!"Node '{node}' has no API URL."
  | .noRedirectUrl node => s!"Redirect node '{node}' has no URL."
  | .incomplete node => s!"Condition node '{node}' requires both a field and an operator."
  | .callFailed request message => s!"API call {request.method} {request.url} failed: {message}"
  | .toldByCaller message => message
  | .condition (.unsupported name) => (Condition.Fault.unsupported name).message
  | .condition .overflow => s!"OverflowError: {Condition.Fault.overflow.message}"
  | .timeout node seconds =>
    let shown := String.ofList (seconds.fixed 1)
    s!"Node '{node}' timed out after {shown}s."
  | .unknownKind name => s!"Unsupported node type '{name}'."
  | .unconfigured part => s!"AttributeError: 'NoneType' object has no attribute '{part}'"

/-- How the execution of a node ends. -/
inductive Outcome where
  /-- the node did something -/
  | success (effect : Effect)
  /-- the node failed -/
  | failure (fault : NodeFault)

/-- The outcome of an execution, and what it took. -/
structure Execution (σ : Type) where
  /-- how it ended -/
  outcome : Outcome
  /-- the request that was made -/
  request : Option Request
  /-- the seconds that the answer took -/
  delay : Binary64
  /-- the caller's state -/
  caller : σ

/-! ## Requests and responses -/

/-- A text that says something, as a template filled in a context. -/
def fillIfSaid (template? : Option String) (context : Context) : Option String :=
  (template?.filter (· ≠ "")).map (Template.fill · context)

/-- The request of an endpoint, if it has an address.  A `GET` has no body. -/
def Endpoint.request? (endpoint : Endpoint) (context : Context) : Option Request :=
  (fillIfSaid endpoint.url context).map fun url =>
    { url
      method := endpoint.method.name
      headers := endpoint.headers
      body :=
        if endpoint.method = .get then none else fillIfSaid endpoint.bodyTemplate context }

/-- What a response sets in the context: itself, under the node's id and as the
last response. -/
def responsePatch (node : String) (response : Value) : Entries Value :=
  Entries.ofList [(node, response), (Context.responseName, response)]

namespace OptionSource

/-- The option made of an item. -/
def option (source : OptionSource) (item : Value) : SelectOption :=
  match item with
  | .object _ =>
    { label := (item.field source.labelKey).toText, value := (item.field source.valueKey).toText }
  | _ => { label := item.toText, value := item.toText }

/-- The items of a response: a single object is an item of its own. -/
def items (source : OptionSource) (response : Value) : List Value :=
  match response.select (Path.ofText (source.responsePath.getD "")) with
  | .object fields => [.object fields]
  | .list items => items
  | _ => []

/-- The options made of a response. -/
def options (source : OptionSource) (response : Value) : List SelectOption :=
  (source.items response).map source.option

/-- The field that gets options, with them. -/
def updates (source : OptionSource) (options : List SelectOption) : Entries (List SelectOption) :=
  match source.targetField.filter (· ≠ "") with
  | some field => [(field, options)]
  | none => []

end OptionSource

/-- What a call node does with a response. -/
def callEffect (node : String) (response : Value) : Effect :=
  { report := .value response, patch := responsePatch node response }

/-- What a node that fills a select field does with a response. -/
def optionsEffect (node : String) (source : OptionSource) (response : Value) : Effect :=
  let options := source.options response
  { report := .value (.list (options.map SelectOption.toValue))
    patch := responsePatch node response
    optionUpdates := source.updates options }

/-- Makes a request and does something with the response. -/
def executeCall {σ : Type} (node : String) (endpoint : Endpoint) (context : Context)
    (caller? : Option (Caller σ)) (state : σ) (effect : Value → Effect) : Execution σ :=
  match caller? with
  | none =>
    { outcome := .failure (.noCaller node), request := none, delay := .zero false
      caller := state }
  | some caller =>
    match endpoint.request? context with
    | none =>
      { outcome := .failure (.noRequestUrl node), request := none, delay := .zero false
        caller := state }
    | some request =>
      let (reply, state) := caller.call request context state
      let outcome : Outcome :=
        match reply.response with
        | .ok response => .success (effect response)
        | .error (.nodeFailed message) => .failure (.toldByCaller message)
        | .error (.callFailed message) => .failure (.callFailed request message)
      { outcome, request := some request, delay := reply.delay, caller := state }

/-! ## Nodes -/

/-- The values that a mapping sets; all sources are read before any target is
set. -/
def assignments (mapping : List Assignment) (context : Context) : Entries Value :=
  Entries.ofList ((mapping.filter (·.target ≠ "")).map fun assignment =>
    (assignment.target, context.resolveSource assignment.source))

/-- An entry of a report, or nothing when there is nothing to tell. -/
def reportOf (name : String) (text? : Option String) : Report :=
  match text? with
  | some s => .value (.object [(name, .text s)])
  | none => .nothing

/-- Compares and takes a branch. -/
def executeCondition (node : String) (field : Option String)
    (operator : Option Condition.Operator) (expected : Option Scalar) (context : Context) :
    Outcome :=
  match field.filter (· ≠ ""), operator with
  | some field, some operator =>
    let actual := context.read field
    let value := (expected.map Scalar.toValue).getD .null
    match Condition.holds operator (actual.toValue context) value with
    | .ok result =>
      .success { report := .comparison field operator actual expected result, branch := result }
    | .error fault => .failure (.condition fault)
  | _, _ => .failure (.incomplete node)

/-- The title of a dialog that has none. -/
def defaultTitle : String := "Info"

/-- The outcome of a node that makes no request. -/
def executeLocal (node : String) (action : Action) (context : Context) : Outcome :=
  match action with
  | .trigger event _ => .success { report := reportOf "triggerType" (event.map EventKind.name) }
  | .page id => .success { report := reportOf "pageId" (id.filter (· ≠ "")) }
  | .setData mapping =>
    let updates := assignments mapping context
    .success
      { report := .value (.object updates), fieldUpdates := updates, patch := updates }
  | .showDialog title message =>
    let dialog : Dialog :=
      { title := (fillIfSaid title context).getD defaultTitle
        message := (fillIfSaid message context).getD "" }
    .success { report := .value dialog.toValue, dialog := some dialog }
  | .redirect url newTab =>
    match fillIfSaid url context with
    | some url =>
      .success
        { report := .value (.object [("url", .text url), ("newTab", .bool newTab)])
          redirect := some { url, newTab } }
    | none => .failure (.noRedirectUrl node)
  | .condition field operator expected => executeCondition node field operator expected context
  | .callApi _ => .failure (.noCaller node)
  | .fetchOptions _ _ => .failure (.noCaller node)

/-- Executes a node in a context. -/
def Node.execute {σ : Type} (node : Node) (context : Context) (caller? : Option (Caller σ))
    (state : σ) : Execution σ :=
  match node.action with
  | .callApi endpoint =>
    executeCall node.id endpoint context caller? state (callEffect node.id)
  | .fetchOptions endpoint source =>
    executeCall node.id endpoint context caller? state (optionsEffect node.id source)
  | action =>
    { outcome := executeLocal node.id action context, request := none, delay := .zero false
      caller := state }

/-! ## Nodes without a configuration -/

/-- The part of its configuration that a node of a kind needs first. -/
def NodeKind.firstPart : NodeKind → String
  | .trigger => "trigger_type"
  | .page => "page_id"
  | .callApi => "url"
  | .fetchOptions => "url"
  | .setData => "mapping"
  | .showDialog => "title"
  | .redirect => "url"
  | .condition => "field"

/-- Whether nodes of the kind make requests. -/
def NodeKind.makesRequests : NodeKind → Bool
  | .callApi => true
  | .fetchOptions => true
  | _ => false

/-- The fault of something of a kind that has no configuration. -/
def NodeKind.bareFault (kind : NodeKind) (node : String) (hasCaller : Bool) : NodeFault :=
  if kind.makesRequests && !hasCaller then .noCaller node else .unconfigured kind.firstPart

/-- The outcome of something of which no more than an id and the name of its kind is
known. -/
def executeUnconfigured (node kindName : String) (hasCaller : Bool) : Outcome :=
  match NodeKind.ofName? kindName with
  | none => .failure (.unknownKind kindName)
  | some kind => .failure (kind.bareFault node hasCaller)

end FormAutomation
