import FormAutomation.Execution
import FormAutomation.Value.Literal
import FormAutomation.Value.Numeric

/-!
# Attempts

An execution can be broken off.  A caller may raise something in place of an answer,
what it returns may be nothing that can be worked with, and the part of the
configuration that is needed may be missing.  An *attempt* goes step by step through
a scene: it reads the context, it asks the caller, and when something is raised the
scene is left as it is then.

What is raised is caught and told, if it is an error.  A signal is none: that a task
is cancelled has to reach those who cancelled it, or there could be no time limits.
-/

namespace FormAutomation

/-! ## What is raised -/

/-- How far something gets that is raised. -/
inductive Raised.Rank where
  /-- it says why a node cannot complete -/
  | nodeFailed
  /-- it is another error -/
  | error
  /-- it is a signal, and no error -/
  | signal
  deriving DecidableEq

/-- Something that is raised. -/
inductive Raised where
  /-- with a text -/
  | told (rank : Raised.Rank) (kind message : String)
  /-- without: whoever asks for its text has this raised instead -/
  | untold (rank : Raised.Rank) (kind : String) (instead : Raised)
  deriving DecidableEq

namespace Raised

/-- How far it gets. -/
def rank : Raised → Rank
  | .told rank _ _ => rank
  | .untold rank _ _ => rank

/-- What kind of thing it is. -/
def kind : Raised → String
  | .told _ kind _ => kind
  | .untold _ kind _ => kind

/-- Its text. -/
def text : Raised → Except Raised String
  | .told _ _ message => .ok message
  | .untold _ _ instead => .error instead

/-- What says why a node cannot complete. -/
def nodeFailed (message : String) : Raised :=
  .told .nodeFailed "NodeExecutionError" message

/-- An error, as it leaves the call of a request in which it was raised. -/
def behindCall (request : Request) (raised : Raised) : Raised :=
  match raised.rank, raised.text with
  | .error, .ok message => .nodeFailed (NodeFault.callFailed request message).message
  | .error, .error instead => instead
  | _, _ => raised

end Raised

/-- A fault, as it is raised. -/
def NodeFault.raised : NodeFault → Raised
  | .condition .overflow => .told .error "OverflowError" Condition.Fault.overflow.message
  | .unconfigured part =>
    .told .error "AttributeError" s!"'NoneType' object has no attribute '{part}'"
  | fault => .nodeFailed fault.message

/-! ## Outcomes -/

/-- How an execution ended. -/
inductive NodeOutcome.Status where
  /-- with success -/
  | success
  /-- with an error -/
  | error
  deriving DecidableEq

/-- The word for it. -/
def NodeOutcome.Status.name : NodeOutcome.Status → String
  | .success => "success"
  | .error => "error"

/-- What is told of an execution, all in one record. -/
structure NodeOutcome (ω : Type) where
  /-- how it ended -/
  status : NodeOutcome.Status := .success
  /-- its data -/
  data : Option ω := none
  /-- what went wrong -/
  error : Option String := none
  /-- the branch that was taken -/
  branch : Option Bool := none
  /-- what is set in the context -/
  contextPatch : Entries ω := []
  /-- the values that are set on the form -/
  fieldUpdates : Entries ω := []
  /-- the options that select fields get -/
  optionUpdates : Entries (List SelectOption) := []
  /-- the page that is opened -/
  redirect : Option Redirect := none
  /-- the message that is shown -/
  dialog : Option Dialog := none

/-- An error of which this is told. -/
def NodeOutcome.failed {ω : Type} (message : String) : NodeOutcome ω :=
  { status := .error, error := some message }

/-! ## Scenes -/

/-- The things that are returned by those who are asked.  They need not be values,
and to make options of one may go wrong. -/
structure Things (ω : Type) where
  /-- a value as a thing -/
  ofValue : Value → ω
  /-- the options made of a thing -/
  options : OptionSource → ω → Except Raised (List SelectOption)

/-- The things are values, as they are where JSON is returned. -/
def Things.values : Things Value where
  ofValue v := v
  options source v := .ok (source.options v)

/-- Someone who is asked, and returns a thing or raises something. -/
structure Agent (σ ω : Type) where
  /-- what comes of a request in a context -/
  call : Request → Context → σ → Except Raised ω × σ

/-- A fault of a call, as it is raised. -/
def CallFault.raised : CallFault → Raised
  | .nodeFailed message => .nodeFailed message
  | .callFailed message => .told .error "ApiCallError" message

/-- A caller as someone who is asked. -/
def Caller.agent {σ : Type} (caller : Caller σ) : Agent σ Value where
  call request context state :=
    let (reply, state) := caller.call request context state
    (reply.response.mapError CallFault.raised, state)

/-- What an attempt works on. -/
structure Scene (σ : Type) where
  /-- the context -/
  context : Context
  /-- the state of those who are asked -/
  agent : σ
  /-- the requests that were made, in order -/
  requests : List Request := []

/-- The scene after a request that left those who are asked in a state. -/
def Scene.after {σ : Type} (scene : Scene σ) (request : Request) (state : σ) : Scene σ :=
  { scene with agent := state, requests := scene.requests ++ [request] }

/-- A computation on a scene, in which something may be raised. -/
structure Attempt (σ α : Type) where
  /-- what comes of it in a scene, and what it leaves behind -/
  run : Scene σ → Except Raised α × Scene σ

namespace Attempt

variable {σ ω α : Type}

instance : Monad (Attempt σ) where
  pure a := ⟨fun scene => (.ok a, scene)⟩
  bind attempt next := ⟨fun scene =>
    match attempt.run scene with
    | (.ok a, scene) => (next a).run scene
    | (.error raised, scene) => (.error raised, scene)⟩

/-- The context. -/
def context : Attempt σ Context :=
  ⟨fun scene => (.ok scene.context, scene)⟩

/-- Something that is raised or not. -/
def ofExcept (result : Except Raised α) : Attempt σ α :=
  ⟨fun scene => (result, scene)⟩

/-- Makes a request. -/
def request (agent : Agent σ ω) (request : Request) : Attempt σ ω :=
  ⟨fun scene =>
    let (answer, state) := agent.call request scene.context scene.agent
    (answer.mapError (·.behindCall request), scene.after request state)⟩

/-- Has the request of a node answered. -/
def ask (node : String) (endpoint : Endpoint) (agent? : Option (Agent σ ω)) : Attempt σ ω := do
  match agent? with
  | none => ofExcept (.error (NodeFault.noCaller node).raised)
  | some agent =>
    match endpoint.request? (← context) with
    | none => ofExcept (.error (NodeFault.noRequestUrl node).raised)
    | some asked => request agent asked

/-- An attempt in which this is done with what is raised. -/
def handled (attempt : Attempt σ α) (handle : Raised → Except Raised α) : Attempt σ α :=
  ⟨fun scene =>
    match attempt.run scene with
    | (.ok a, scene) => (.ok a, scene)
    | (.error raised, scene) => (handle raised, scene)⟩

end Attempt

/-! ## Executors -/

variable {σ ω : Type}

/-- What a node that makes no request did, as it is told in a context. -/
def Things.outcome (things : Things ω) (context : Context) (effect : Effect) : NodeOutcome ω where
  data :=
    match effect.report with
    | .nothing => none
    | report => some (things.ofValue (report.toValue context))
  branch := effect.branch
  contextPatch := Entries.mapValues things.ofValue effect.patch
  fieldUpdates := Entries.mapValues things.ofValue effect.fieldUpdates
  optionUpdates := effect.optionUpdates
  redirect := effect.redirect
  dialog := effect.dialog

/-- What a thing that was returned sets in the context. -/
def thingPatch (node : String) (thing : ω) : Entries ω :=
  Entries.ofList [(node, thing), (Context.responseName, thing)]

/-- The executor of a node, with its configuration. -/
def Node.attempt (things : Things ω) (node : Node) (agent? : Option (Agent σ ω)) :
    Attempt σ (NodeOutcome ω) := do
  match node.action with
  | .callApi endpoint =>
    let thing ← Attempt.ask node.id endpoint agent?
    return { data := some thing, contextPatch := thingPatch node.id thing }
  | .fetchOptions endpoint source =>
    let thing ← Attempt.ask node.id endpoint agent?
    let options ← Attempt.ofExcept (things.options source thing)
    return { data := some (things.ofValue (.list (options.map SelectOption.toValue)))
             contextPatch := thingPatch node.id thing
             optionUpdates := source.updates options }
  | action =>
    let context ← Attempt.context
    match executeLocal node.id action context with
    | .success effect => return things.outcome context effect
    | .failure fault => Attempt.ofExcept (.error fault.raised)

/-! ## What is caught -/

/-- What is done with what an executor raises: an error is told in an outcome, if it
can be. -/
def Raised.caught (raised : Raised) : Except Raised (NodeOutcome ω) :=
  match raised.rank with
  | .nodeFailed => raised.text.map .failed
  | .error => raised.text.map fun message => .failed s!"{raised.kind}: {message}"
  | .signal => .error raised

/-- Something that is executed. -/
inductive Executable where
  /-- a node -/
  | configured (node : Node)
  /-- something that has an id and a type and no configuration -/
  | bare (id : String) (type : Value)

/-- Whether a value can be looked up: lists and objects cannot. -/
def Value.isHashable : Value → Bool
  | .list _ => false
  | .object _ => false
  | _ => true

/-- What is raised when a value is looked up that cannot be. -/
def Raised.unhashable (v : Value) : Raised :=
  .told .error "TypeError" s!"unhashable type: '{v.kindName}'"

/-- The attempt to execute something.  Its executor is looked up before anything is
caught; no value but a text is shown as the name of a kind. -/
def Executable.attempt (things : Things ω) (executable : Executable)
    (agent? : Option (Agent σ ω)) : Attempt σ (NodeOutcome ω) :=
  match executable with
  | .configured node => (node.attempt things agent?).handled Raised.caught
  | .bare id type =>
    if !type.isHashable then Attempt.ofExcept (.error (.unhashable type))
    else
      match NodeKind.ofName? type.shown with
      | none => return .failed (NodeFault.unknownKind type.shown).message
      | some kind =>
        (Attempt.ofExcept (.error (kind.bareFault id agent?.isSome).raised)).handled Raised.caught

end FormAutomation
