import FormAutomation.Proofs.Run.Move

/-!
# Results can be told from the trace

Beside the events a run keeps what it set on the form.  That is no news: whoever has
the events, as they are shown, can put it together again.  A *recap* goes through the
events and takes from each what its data says: a success of a node that sets values
lays them over those before, options replace those of the same field, and of pages and
messages the last one counts.  What is not a success says nothing.

Options, pages and messages are compared as they are shown.
-/

namespace FormAutomation

/-! ## What an event says -/

/-- A page that was opened, as the node that opened it tells of it. -/
def Redirect.toValue (redirect : Redirect) : Value :=
  .object [("url", .text redirect.url), ("newTab", .bool redirect.newTab)]

/-- The entries of an object. -/
def Value.entries : Value → Entries Value
  | .object fields => fields
  | _ => []

/-- The field that the node of an id fills with options. -/
def Graph.targetField? (graph : Graph) (id : String) : Option String :=
  (graph.node? id).bind fun node =>
    match node.action with
    | .fetchOptions _ source => filled source.targetField
    | _ => none

namespace Event

/-- The data of the event, if it is the success of a node of a kind. -/
def told? (context : Context) (kind : NodeKind) (event : Event) : Option Value :=
  if event.succeeded && event.kind? == some kind then some (event.data context) else none

/-- The values that the event says were set on the form. -/
def valuesTold (context : Context) (event : Event) : Entries Value :=
  ((event.told? context .setData).map Value.entries).getD []

/-- The options that the event says a field was given. -/
def optionsTold? (graph : Graph) (context : Context) (field : String) (event : Event) :
    Option Value :=
  if graph.targetField? event.nodeId = some field then event.told? context .fetchOptions else none

/-- The options that the event says its field was given, under the field. -/
def optionsTold (graph : Graph) (context : Context) (event : Event) : Entries Value :=
  match graph.targetField? event.nodeId, event.told? context .fetchOptions with
  | some field, some options => [(field, options)]
  | _, _ => []

end Event

/-! ## Recaps -/

/-- What a run set on the form, as it is shown. -/
structure Recap where
  /-- the values -/
  fieldUpdates : Entries Value := []
  /-- the options of select fields -/
  optionUpdates : Entries Value := []
  /-- the last page opened -/
  redirect : Option Value := none
  /-- the last message shown -/
  dialog : Option Value := none

namespace Recap

/-- The recap with what one more event says. -/
def add (graph : Graph) (context : Context) (recap : Recap) (event : Event) : Recap where
  fieldUpdates := recap.fieldUpdates.overlay (event.valuesTold context)
  optionUpdates := recap.optionUpdates.overlay (event.optionsTold graph context)
  redirect := event.told? context .redirect <|> recap.redirect
  dialog := event.told? context .showDialog <|> recap.dialog

/-- What events say, one after the other. -/
def ofEvents (graph : Graph) (context : Context) (events : List Event) : Recap :=
  events.foldl (add graph context) {}

end Recap

/-- What the result itself keeps, as it is shown. -/
def RunResult.recap (result : RunResult) : Recap where
  fieldUpdates := result.fieldUpdates
  optionUpdates := result.optionUpdates.mapValues fun options =>
    .list (options.map SelectOption.toValue)
  redirect := result.redirect.map Redirect.toValue
  dialog := result.dialog.map Dialog.toValue

/-- What a result keeps can be told from its events. -/
structure RunResult.IsTold (graph : Graph) (result : RunResult) : Prop where
  /-- it is what the events say, one after the other -/
  recap : result.recap = Recap.ofEvents graph result.context result.events
  /-- a value has the place where its name was first set -/
  order : result.fieldUpdates.names
    = ((result.events.flatMap (Event.valuesTold result.context)).map (·.1)).eraseDups
  /-- and it is the one that was set last -/
  value : ∀ name, result.fieldUpdates.lookup name
    = (result.events.flatMap (Event.valuesTold result.context)).reverse.lookup name
  /-- a field has the options that it was given last -/
  options : ∀ field, result.recap.optionUpdates.lookup field
    = result.events.reverse.findSome? (Event.optionsTold? graph result.context field)
  /-- the page is the one that was opened last -/
  redirect : result.recap.redirect
    = result.events.reverse.findSome? (Event.told? result.context .redirect)
  /-- the message is the one that was shown last -/
  dialog : result.recap.dialog
    = result.events.reverse.findSome? (Event.told? result.context .showDialog)
  /-- an error says nothing -/
  silent : ∀ event ∈ result.events, event.succeeded = false →
    ∀ recap, Recap.add graph result.context recap event = recap

/-! ## Going through the events -/

variable {graph : Graph} {context : Context} {event : Event} {events : List Event}

/-- An error says nothing. -/
theorem Event.told?_of_error (h : event.succeeded = false) (context : Context) (kind : NodeKind) :
    event.told? context kind = none := by
  simp [told?, h]

namespace Recap

/-- An error leaves a recap as it is. -/
theorem add_of_error (h : event.succeeded = false) (recap : Recap) :
    recap.add graph context event = recap := by
  have hvalues : event.valuesTold context = [] := by
    simp [Event.valuesTold, Event.told?_of_error h]
  have hoptions : event.optionsTold graph context = [] := by
    unfold Event.optionsTold
    rw [Event.told?_of_error h]
    split <;> simp_all
  rw [add, hvalues, hoptions, Event.told?_of_error h, Event.told?_of_error h]
  rfl

theorem ofEvents_append (events : List Event) (event : Event) :
    ofEvents graph context (events ++ [event])
      = (ofEvents graph context events).add graph context event := by
  rw [ofEvents, List.foldl_append]
  rfl

/-- The values are those of all events, laid over each other. -/
theorem fieldUpdates_ofEvents (graph : Graph) (context : Context) (events : List Event) :
    (ofEvents graph context events).fieldUpdates
      = Entries.ofList (events.flatMap (Event.valuesTold context)) := by
  induction events using List.reverseRecOn with
  | nil => rfl
  | append_singleton events event ih =>
    have hlast : [event].flatMap (Event.valuesTold context) = event.valuesTold context := by simp
    rw [ofEvents_append, List.flatMap_append, hlast, Entries.ofList, Entries.overlay_append]
    exact congrArg (Entries.overlay · _) ih

/-- A part for which the last event counts that has something to say of it. -/
theorem ofEvents_last (part : Recap → Option Value) {told? : Event → Option Value}
    (hempty : part {} = none)
    (hadd : ∀ recap event, part (add graph context recap event) = (told? event <|> part recap))
    (events : List Event) :
    part (ofEvents graph context events) = events.reverse.findSome? told? := by
  induction events using List.reverseRecOn with
  | nil => exact hempty
  | append_singleton events event ih =>
    rw [ofEvents_append, hadd, ih, List.reverse_append]
    rcases h : told? event with _ | v <;> simp [h]

/-- An event is about the options of one field at most. -/
theorem lookup_add (field : String) (recap : Recap) (event : Event) :
    (recap.add graph context event).optionUpdates.lookup field
      = (event.optionsTold? graph context field <|> recap.optionUpdates.lookup field) := by
  unfold add Event.optionsTold Event.optionsTold?
  rcases htarget : graph.targetField? event.nodeId with _ | target
  · simp [Entries.overlay]
  · rcases htold : event.told? context .fetchOptions with _ | options
    · simp [Entries.overlay]
    · by_cases h : target = field
      · simp [Entries.overlay, Entries.lookup_put, h]
      · simp [Entries.overlay, Entries.lookup_put, h, Ne.symm h]

end Recap

/-! ## What a node did is what its event says -/

section Does

variable {node : Node} {effect : Effect} {before : Context}

theorem told?_success (kind : NodeKind) :
    (Event.executed node (.success effect)).told? context kind
      = if node.action.kind = kind then some (effect.report.toValue context) else none := by
  simp [Event.told?, Event.succeeded, Event.kind?, Event.data, Node.kind]

theorem valuesTold_of_does (hd : node.action.Does node.id before effect) :
    (Event.executed node (.success effect)).valuesTold context = effect.fieldUpdates := by
  rw [Event.valuesTold, told?_success]
  generalize node.action = action at hd
  cases hd <;> rfl

theorem optionsTold_of_does (hn : graph.node? node.id = some node)
    (hd : node.action.Does node.id before effect) :
    (Event.executed node (.success effect)).optionsTold graph context
      = effect.optionUpdates.mapValues fun options =>
        .list (options.map SelectOption.toValue) := by
  simp only [Event.optionsTold, Graph.targetField?, Event.nodeId, hn, Option.bind_some,
    told?_success]
  generalize node.action = action at hd
  cases hd with
  | @fetchOptions endpoint source response =>
    -- without a field the options are told, and nothing is filled
    simp only [optionsEffect, OptionSource.updates, filled]
    rcases source.targetField.filter (· ≠ "") with _ | field <;> rfl
  | _ => rfl

theorem redirectTold_of_does (hd : node.action.Does node.id before effect) :
    (Event.executed node (.success effect)).told? context .redirect
      = effect.redirect.map Redirect.toValue := by
  rw [told?_success]
  generalize node.action = action at hd
  cases hd <;> rfl

theorem dialogTold_of_does (hd : node.action.Does node.id before effect) :
    (Event.executed node (.success effect)).told? context .showDialog
      = effect.dialog.map Dialog.toValue := by
  rw [told?_success]
  generalize node.action = action at hd
  cases hd <;> rfl

end Does

/-! ## Runs -/

namespace Run

variable {σ : Type} {setting : Setting σ}

/-- What is put into effect is what the event says that was recorded of it. -/
theorem State.recap_apply {node : Node} {effect : Effect} {before : Context} (state : State σ)
    (hn : graph.node? node.id = some node) (hd : node.action.Does node.id before effect) :
    (state.apply effect).result.recap
      = state.result.recap.add graph context (.executed node (.success effect)) := by
  rw [Recap.add, valuesTold_of_does hd, optionsTold_of_does hn hd, redirectTold_of_does hd,
    dialogTold_of_does hd]
  rcases hredirect : effect.redirect with _ | redirect <;>
    rcases hdialog : effect.dialog with _ | dialog <;>
      simp [State.apply, RunResult.recap, Entries.mapValues_overlay, hredirect, hdialog]

/-- The result keeps what its events say, in whatever context they are shown. -/
def State.IsTold (setting : Setting σ) (state : State σ) : Prop :=
  ∀ context, state.result.recap = Recap.ofEvents setting.graph context state.result.events

/-- A step records its event, and nothing is put into effect yet. -/
theorem recap_of_step {node : Node} {state state' : State σ} {outcome : Outcome}
    (hs : step setting node state = (outcome, state')) :
    state'.result.recap = state.result.recap := by
  rw [result_of_step hs]
  rfl

theorem isTold_of_advances {state state' : State σ} (h : Advances setting state state')
    (ht : state.IsTold setting) : state'.IsTold setting := by
  obtain ⟨hn, hs⟩ := h
  intro context
  rw [State.recap_apply _ hn (does_of_step hs), State.apply_events, events_of_step hs,
    Recap.ofEvents_append, recap_of_step hs, ht context]

theorem isTold_of_halts {state state' : State σ} (h : Halts setting state state')
    (ht : state.IsTold setting) : state'.IsTold setting := by
  intro context
  cases h with
  | failed hn hs =>
    rw [State.tell_result, events_of_step hs, Recap.ofEvents_append,
      Recap.add_of_error rfl, recap_of_step hs, ht context]
  | aborted hf =>
    rw [State.abort_events, Recap.ofEvents_append,
      Recap.add_of_error (Event.succeeded_of_isFatal hf)]
    exact ht context

/-- A run from start nodes keeps what its events say, in whatever context they are
shown. -/
theorem recap_ofGraph (setting : Setting σ) (values : Context) {starts : List Node}
    (hs : ∀ start ∈ starts, start ∈ setting.graph.nodes) (caller : σ) (context : Context) :
    (ofGraph setting values starts caller).result.recap
      = Recap.ofEvents setting.graph context
        (ofGraph setting values starts caller).result.events :=
  kept_by_chains (P := State.IsTold setting) (fun _ _ => isTold_of_advances)
    (fun _ _ => isTold_of_halts) starts (initial setting values starts caller)
    (fun start hstart => Graph.node?_of_mem (hs start hstart)) (fun _ => rfl) context

end Run

/-- What is what the events say can be told from them. -/
theorem RunResult.isTold_of_recap {result : RunResult}
    (h : result.recap = Recap.ofEvents graph result.context result.events) :
    result.IsTold graph := by
  have hvalues : result.fieldUpdates
      = Entries.ofList (result.events.flatMap (Event.valuesTold result.context)) := by
    rw [← Recap.fieldUpdates_ofEvents graph, ← h]
    rfl
  refine ⟨h, ?_, ?_, ?_, ?_, ?_, ?_⟩
  · rw [hvalues, Entries.names_ofList]
  · intro name
    rw [hvalues, Entries.lookup_ofList]
  · intro field
    rw [h]
    exact Recap.ofEvents_last (fun recap => recap.optionUpdates.lookup field) rfl
      (Recap.lookup_add field) result.events
  · rw [h]
    exact Recap.ofEvents_last Recap.redirect rfl (fun _ _ => rfl) result.events
  · rw [h]
    exact Recap.ofEvents_last Recap.dialog rfl (fun _ _ => rfl) result.events
  · exact fun _ _ herror recap => Recap.add_of_error herror recap

variable {σ : Type}

/-- Of every run, whatever the graph, the values, the answers and the event are, the
result can be told from the events. -/
theorem isTold_run (options : RunOptions) (values : Context) (caller? : Option (Caller σ))
    (event : Option FormEvent) (caller : σ) :
    (∀ graph : Graph, (graph.run options values caller? event caller).result.IsTold graph)
      ∧ ∀ workflow : Workflow,
        (workflow.run options values caller? event caller).result.IsTold workflow.toGraph := by
  constructor
  · intro graph
    refine graph.run_cases (P := fun run => run.result.IsTold graph) options values caller?
      event caller (fun _ => RunResult.isTold_of_recap rfl) ?_
    exact RunResult.isTold_of_recap
      (Run.recap_ofGraph _ values (fun _ => Graph.mem_nodes_of_mem_startNodes) caller _)
  · intro workflow
    refine workflow.run_cases (P := fun run => run.result.IsTold workflow.toGraph) options
      values caller? event caller (fun _ => RunResult.isTold_of_recap rfl) ?_
    exact RunResult.isTold_of_recap
      (Run.recap_ofGraph _ values (fun _ => Graph.mem_nodes_of_mem_startNodes) caller _)

/-- A name is copied twice, and then a page is to be opened that has no address. -/
def Graph.welcome : Graph where
  id := "welcome"
  nodes :=
    [⟨"salute", "", .setData [⟨"name", "guest"⟩, ⟨"city", "guest"⟩], by decide⟩,
     ⟨"depart", "", .redirect none false, by decide⟩]
  edges := [⟨"onward", "salute", .out, "depart", by decide⟩]
  distinct := by decide

/-- The value is the last one that the events tell, and the failure at the end says nothing. -/
theorem isTold_run_welcome :
    let result := (Graph.welcome.run ⟨4, .infinity false, false, by decide⟩
      [("name", .text "Ann"), ("city", .text "Ulm")] (none : Option (Caller Unit)) none ()).result
    result.IsTold .welcome ∧ result.fieldUpdates.lookup "guest" = some (.text "Ulm")
      ∧ ∃ event ∈ result.events, event.succeeded = false
        ∧ ∀ recap, Recap.add .welcome result.context recap event = recap := by
  intro result
  have htold : result.IsTold .welcome :=
    (isTold_run ⟨4, .infinity false, false, by decide⟩
      [("name", .text "Ann"), ("city", .text "Ulm")] (none : Option (Caller Unit)) none ()).1 _
  have hvalue : result.fieldUpdates.lookup "guest" = some (.text "Ulm") := by
    rw [htold.value]
    rfl
  have hlast : ∃ event ∈ result.events, event.succeeded = false := by decide +kernel
  obtain ⟨event, hevent, herror⟩ := hlast
  exact ⟨htold, hvalue, event, hevent, herror, htold.silent event hevent herror⟩

end FormAutomation
