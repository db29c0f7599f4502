import FormAutomation.Run.Notice
import FormAutomation.Value.Path

/-!
# Hooks

Those who watch runs register callbacks for occasions.  A callback for occasions
about nodes can be limited to some types of nodes; for the others such a limit
means nothing.  A callback that fails is noted, and the next one is called all
the same.

All callbacks of an occasion are given one payload, and a callback may change
it for those after it.
-/

namespace FormAutomation

/-- What a callback does with a payload. -/
structure Reaction where
  /-- the payload as it leaves it -/
  payload : Entries Value
  /-- what it returns, or what is said of its failure -/
  result : Except String Value

/-- A callback. -/
structure Callback where
  /-- what tells it from others -/
  id : String
  /-- the name under which it is reported -/
  name : String
  /-- what it does -/
  react : Entries Value → Reaction

/-- A callback that was registered. -/
structure Subscription where
  /-- for what -/
  occasion : Occasion
  /-- the callback -/
  callback : Callback
  /-- the types of nodes that it is limited to -/
  scope : Option (List String)

/-- What is remembered of a call. -/
structure Delivery where
  /-- what it was for -/
  occasion : Occasion
  /-- the callback -/
  callback : Callback
  /-- the payload that it was given -/
  seen : Entries Value
  /-- the node that the payload named afterwards -/
  nodeId : Value
  /-- what it returned, or what is said of its failure -/
  result : Except String Value

/-- The subscriptions in the order of registration. -/
structure Registry where
  /-- the subscriptions -/
  subscriptions : List Subscription

namespace Registry

/-- A registry without subscriptions. -/
def empty : Registry := ⟨[]⟩

/-- Why a registry cannot do what it is asked. -/
inductive Fault where
  /-- there is no such occasion -/
  | unknownOccasion (name : String)
  /-- the type of a node in a payload is a list -/
  | listType
  /-- the type of a node in a payload is an object -/
  | objectType
  deriving DecidableEq

/-- What is said of a fault. -/
def Fault.message : Fault → String
  | .unknownOccasion name =>
    let known := ", ".intercalate (Occasion.all.map Occasion.name)
    s!"Unknown hook event '{name}'. Use one of: {known}."
  | .listType => "unhashable type: 'list'"
  | .objectType => "unhashable type: 'dict'"

/-- Adds a callback for an occasion. -/
def register (registry : Registry) (occasion : Occasion) (callback : Callback)
    (scope : Option (List String)) : Registry :=
  let scope := if occasion.isAboutNode then scope else none
  ⟨registry.subscriptions ++ [⟨occasion, callback, scope⟩]⟩

/-- Adds a callback for the occasion of a name. -/
def registerNamed (registry : Registry) (name : String) (callback : Callback)
    (scope : Option (List String)) : Except Fault Registry :=
  match Occasion.ofName? name with
  | some occasion => .ok (registry.register occasion callback scope)
  | none => .error (.unknownOccasion name)

/-- Whether a subscription is for the occasion of a name. -/
def isFor (name : String) (subscription : Subscription) : Bool :=
  subscription.occasion.name == name

/-- Takes away all registrations of a callback for an occasion. -/
def unregister (registry : Registry) (name : String) (callback : String) : Registry :=
  ⟨registry.subscriptions.filter fun subscription =>
    !(isFor name subscription && subscription.callback.id == callback)⟩

/-- Takes away all registrations for an occasion, or for all. -/
def clear (registry : Registry) (name : Option String) : Registry :=
  match name with
  | some name => ⟨registry.subscriptions.filter fun subscription => !isFor name subscription⟩
  | none => empty

/-- The subscriptions for the occasion of a name. -/
def subscriptionsFor (registry : Registry) (name : String) : List Subscription :=
  registry.subscriptions.filter (isFor name)

/-- Whether a subscription lets a payload through. -/
def accepts (subscription : Subscription) (payload : Entries Value) : Except Fault Bool :=
  match subscription.scope, (payload.lookup "node_type").getD .null with
  | none, _ => .ok true
  | some _, .list _ => .error .listType
  | some _, .object _ => .error .objectType
  | some scope, .text name => .ok (scope.contains name)
  | some _, _ => .ok false

/-- Calls the callbacks of subscriptions with a payload: the calls made, and the
fault that ended them early if there was one. -/
def deliver : List Subscription → Entries Value → List Delivery × Option Fault
  | [], _ => ([], none)
  | subscription :: rest, payload =>
    match accepts subscription payload with
    | .error fault => ([], some fault)
    | .ok false => deliver rest payload
    | .ok true =>
      let reaction := subscription.callback.react payload
      let delivery : Delivery :=
        { occasion := subscription.occasion
          callback := subscription.callback
          seen := payload
          nodeId := (reaction.payload.lookup "node_id").getD .null
          result := reaction.result }
      let (deliveries, fault) := deliver rest reaction.payload
      (delivery :: deliveries, fault)

/-- Calls the callbacks for the occasion of a name. -/
def emit (registry : Registry) (name : String) (payload : Entries Value) :
    List Delivery × Option Fault :=
  deliver (registry.subscriptionsFor name) payload

/-- Passes on what a run told, one notice after the other. -/
def emitAll (registry : Registry) : List Notice → List Delivery × Option Fault
  | [] => ([], none)
  | notice :: rest =>
    match registry.emit notice.occasion.name notice.payload with
    | (deliveries, some fault) => (deliveries, some fault)
    | (deliveries, none) =>
      let (more, fault) := emitAll registry rest
      (deliveries ++ more, fault)

end Registry

/-- What is remembered of a call, as an object. -/
def Delivery.toValue (delivery : Delivery) : Value :=
  let (result, error) : Value × Value :=
    match delivery.result with
    | .ok v => (v, .null)
    | .error message => (.null, .text message)
  .object [("event", .text delivery.occasion.name),
    ("callback", .text delivery.callback.name), ("nodeId", delivery.nodeId),
    ("result", result), ("error", error)]

end FormAutomation
