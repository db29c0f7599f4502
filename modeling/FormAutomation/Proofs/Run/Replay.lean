import FormAutomation.Proofs.Run.Move

/-!
# A run replayed

All that goes on in a run can be told from its events and the moment at which it
starts: the context and the caller's state then.  Each event makes one moment into the
next, its node being executed at the first and what it sets being put over the context;
so each event has its moment, and with it the execution that it records, the request
that was made for it and the notices that were given of it.

Nothing of this looks ahead: what belongs to an event depends on the events before it.
-/

namespace FormAutomation

open Relation

variable {σ : Type}

/-- What the event sets in the context. -/
def Event.patch : Event → Entries Value
  | .executed _ (.success effect) => effect.patch
  | _ => []

namespace Run

/-- What a node finds when it is its turn. -/
structure Moment (σ : Type) where
  /-- the context -/
  context : Context
  /-- the caller's state -/
  caller : σ

/-! ## From moment to moment -/

namespace Setting

variable (setting : Setting σ)

/-- The execution of a node at a moment. -/
def executionAt (moment : Moment σ) (node : Node) : Execution σ :=
  node.execute moment.context setting.caller? moment.caller

/-- The moment after an event. -/
def after (moment : Moment σ) (event : Event) : Moment σ where
  context := moment.context.overlay event.patch
  caller :=
    match event with
    | .executed node _ => (setting.executionAt moment node).caller
    | _ => moment.caller

/-- The moment after events. -/
def afterAll (start : Moment σ) (events : List Event) : Moment σ :=
  events.foldl setting.after start

/-- The events, each with the moment at which it takes place. -/
def replay : Moment σ → List Event → List (Moment σ × Event)
  | _, [] => []
  | moment, event :: rest => (moment, event) :: replay (setting.after moment event) rest

/-- The request that is made for an event. -/
def requestAt (moment : Moment σ) : Event → Option Request
  | .executed node _ => (setting.executionAt moment node).request
  | _ => none

/-- The notices that are given of an event, which is shown as it is at its moment. -/
def noticesAt (moment : Moment σ) (event : Event) (step : Nat) : List Notice :=
  match event with
  | .executed node _ =>
    [.beforeNode setting.graph.id node step,
      .afterNode setting.graph.id node step (event.toValue moment.context)]
  | _ => []

variable {setting} {start : Moment σ} {events : List Event}

theorem afterAll_append (events : List Event) (event : Event) :
    setting.afterAll start (events ++ [event])
      = setting.after (setting.afterAll start events) event := by
  simp [afterAll]

/-- The context at a moment is that of the start with what the events before have set,
one after the other. -/
theorem context_afterAll (start : Moment σ) (events : List Event) :
    (setting.afterAll start events).context
      = events.foldl (fun context event => context.overlay event.patch) start.context := by
  induction events using List.reverseRecOn with
  | nil => rfl
  | append_singleton events event ih =>
    rw [afterAll_append, List.foldl_append, ← ih]
    rfl

theorem replay_append (start : Moment σ) (events : List Event) (event : Event) :
    setting.replay start (events ++ [event])
      = setting.replay start events ++ [(setting.afterAll start events, event)] := by
  induction events generalizing start with
  | nil => rfl
  | cons first rest ih =>
    simp only [List.cons_append, replay, ih]
    rfl

theorem length_replay (start : Moment σ) (events : List Event) :
    (setting.replay start events).length = events.length := by
  induction events generalizing start with
  | nil => rfl
  | cons first rest ih => simp [replay, ih]

/-- The moment of an event is the one after the events before it. -/
theorem getElem?_replay (start : Moment σ) (events : List Event) (k : Nat) :
    (setting.replay start events)[k]?
      = events[k]?.map fun event => (setting.afterAll start (events.take k), event) := by
  induction events generalizing start k with
  | nil => rfl
  | cons first rest ih =>
    cases k with
    | zero => rfl
    | succ k =>
      simp only [replay, List.getElem?_cons_succ, ih, List.take_succ_cons]
      rfl

/-- The entries of a replay, counted from one, are the events, each at its moment. -/
theorem mem_zipIdx_replay {moment : Moment σ} {event : Event} {step : Nat} :
    ((moment, event), step) ∈ (setting.replay start events).zipIdx 1
      ↔ ∃ k, events[k]? = some event ∧ moment = setting.afterAll start (events.take k)
        ∧ step = k + 1 := by
  rw [List.mk_mem_zipIdx_iff_le_and_getElem?_sub, getElem?_replay]
  constructor
  · rintro ⟨hle, hentry⟩
    obtain ⟨event', hevent, hpair⟩ := Option.map_eq_some_iff.1 hentry
    obtain ⟨rfl, rfl⟩ := Prod.mk.inj hpair
    exact ⟨step - 1, hevent, rfl, by omega⟩
  · rintro ⟨k, hevent, rfl, rfl⟩
    exact ⟨by omega, by simp [hevent]⟩

end Setting

/-! ## What belongs to the events of a run -/

/-- The state after a node was executed, or another event recorded: all of it is what
the events make of the start, but what the last one sets in the context may still have
to be put into effect. -/
structure State.IsReplay (setting : Setting σ) (start : Moment σ) (opening : Notice)
    (pending : Entries Value) (state : State σ) : Prop where
  /-- the name of the graph -/
  workflow : state.result.workflow = setting.graph.id
  /-- a step for each node that was executed -/
  steps : state.steps = state.result.events.countP (!·.isFatal)
  /-- the moment after the events -/
  moment : ⟨state.result.context.overlay pending, state.caller⟩
    = setting.afterAll start state.result.events
  /-- every execution had its outcome -/
  outcomes : ∀ moment node outcome,
    (moment, .executed node outcome) ∈ setting.replay start state.result.events →
      outcome = setting.limit node (setting.executionAt moment node)
  /-- the requests that were made for the events -/
  requests : state.requests = (setting.replay start state.result.events).flatMap
    fun entry => (setting.requestAt entry.1 entry.2).toList
  /-- the notices that were given of the events -/
  notices : state.notices = opening
    :: ((setting.replay start state.result.events).zipIdx 1).flatMap
      fun entry => setting.noticesAt entry.1.1 entry.1.2 entry.2

/-- A run that is what its events make of where it started. -/
structure IsReplay (setting : Setting σ) (start : Moment σ) (opening : Notice) (run : Run σ) :
    Prop where
  /-- the moment after the events -/
  moment : ⟨run.result.context, run.caller⟩ = setting.afterAll start run.result.events
  /-- every execution had its outcome -/
  outcomes : ∀ moment node outcome,
    (moment, .executed node outcome) ∈ setting.replay start run.result.events →
      outcome = setting.limit node (setting.executionAt moment node)
  /-- the requests that were made for the events -/
  requests : run.requests = (setting.replay start run.result.events).flatMap
    fun entry => (setting.requestAt entry.1 entry.2).toList
  /-- the notices that were given of the events, of an error once more, and of the end -/
  notices : run.notices = opening
    :: ((setting.replay start run.result.events).zipIdx 1).flatMap
        (fun entry => setting.noticesAt entry.1.1 entry.1.2 entry.2)
      ++ (run.result.events.filter (!·.succeeded)).map
        (.onError setting.graph.id · (run.result.events.countP (!·.isFatal)))
      ++ [.afterRun setting.graph.id run.result.status run.result.visited run.result.toValue]

section

variable {setting : Setting σ} {start : Moment σ} {opening : Notice} {state state' : State σ}
  {node : Node} {outcome : Outcome} {effect : Effect}

/-- A step takes place at the moment after the events before it. -/
theorem isReplay_of_step (hl : state.IsLive) (hr : state.IsReplay setting start opening [])
    (hs : step setting node state = (outcome, state')) :
    state'.IsReplay setting start opening (Event.executed node outcome).patch := by
  have hevents := events_of_step hs
  have hmoment : setting.afterAll start state.result.events
      = ⟨state.result.context, state.caller⟩ := hr.moment.symm
  have hreplay : setting.replay start state'.result.events
      = setting.replay start state.result.events
        ++ [(⟨state.result.context, state.caller⟩, .executed node outcome)] := by
    rw [hevents, Setting.replay_append, hmoment]
  refine ⟨?_, ?_, ?_, ?_, ?_, ?_⟩
  · rw [result_of_step hs]
    exact hr.workflow
  · rw [steps_of_step hs, hr.steps, hevents, List.countP_append]
    rfl
  · rw [hevents, Setting.afterAll_append, hmoment, caller_of_step hs, result_of_step hs]
    rfl
  · intro moment other result hmem
    rw [hreplay] at hmem
    rcases List.mem_append.1 hmem with hmem | hmem
    · exact hr.outcomes moment other result hmem
    · obtain ⟨rfl, hevent⟩ := Prod.mk.inj (List.mem_singleton.1 hmem)
      obtain ⟨rfl, rfl⟩ := Event.executed.inj hevent
      exact outcome_of_step hs
  · rw [requests_of_step hs, hreplay, List.flatMap_append, ← hr.requests]
    simp only [List.flatMap_cons, List.flatMap_nil, List.append_nil]
    rfl
  · -- as many events were recorded before as steps were taken
    have hlength : (setting.replay start state.result.events).length = state.steps :=
      (Setting.length_replay _ _).trans hl.length
    rw [notices_of_step hs, hreplay, List.zipIdx_append, List.flatMap_append, ← List.cons_append,
      ← hr.notices, hr.workflow, hlength, Nat.add_comm]
    rfl

/-- What a node did is put into effect before the next one has its turn. -/
theorem isReplay_apply (h : state.IsReplay setting start opening effect.patch) :
    (state.apply effect).IsReplay setting start opening [] :=
  ⟨h.workflow, h.steps, h.moment, h.outcomes, h.requests, h.notices⟩

theorem isReplay_of_advances (h : Advances setting state state') (hl : state.IsLive)
    (hr : state.IsReplay setting start opening []) :
    state'.IsReplay setting start opening [] := by
  obtain ⟨-, hs⟩ := h
  exact isReplay_apply (isReplay_of_step hl hr hs)

/-- Nothing takes place at a node that cannot be executed. -/
theorem isReplay_record {event : Event} (hf : event.isFatal = true)
    (h : state.IsReplay setting start opening []) :
    (state.record event).IsReplay setting start opening [] := by
  have hnothing : (∀ moment, setting.after moment event = moment)
      ∧ (∀ moment, setting.requestAt moment event = none)
      ∧ ∀ moment step, setting.noticesAt moment event step = [] := by
    cases event with
    | executed node outcome => cases hf
    | exhausted node budget => exact ⟨fun _ => rfl, fun _ => rfl, fun _ _ => rfl⟩
    | lost id => exact ⟨fun _ => rfl, fun _ => rfl, fun _ _ => rfl⟩
  obtain ⟨hafter, hrequest, hnotices⟩ := hnothing
  have hreplay : setting.replay start (state.record event).result.events
      = setting.replay start state.result.events
        ++ [(setting.afterAll start state.result.events, event)] := by
    rw [State.record_events, Setting.replay_append]
  refine ⟨h.workflow, ?_, ?_, ?_, ?_, ?_⟩
  · rw [State.record_steps, h.steps, State.record_events, List.countP_append]
    simp [hf]
  · rw [State.record_events, Setting.afterAll_append, hafter, ← h.moment]
    rfl
  · intro moment node outcome hmem
    rw [hreplay] at hmem
    rcases List.mem_append.1 hmem with hmem | hmem
    · exact h.outcomes moment node outcome hmem
    · obtain ⟨-, rfl⟩ := Prod.mk.inj (List.mem_singleton.1 hmem)
      cases hf
  · rw [hreplay, List.flatMap_append, ← h.requests]
    simp [hrequest, State.record]
  · rw [hreplay, List.zipIdx_append, List.flatMap_append, ← List.cons_append, ← h.notices]
    simp [hnotices, State.record]

/-! ## Runs -/

/-- The outcome that an event records is that of its node at its moment. -/
theorem IsReplay.outcome_eq {run : Run σ} (hr : run.IsReplay setting start opening) {k : Nat}
    (hevent : run.result.events[k]? = some (.executed node outcome)) :
    outcome = setting.limit node
      (setting.executionAt (setting.afterAll start (run.result.events.take k)) node) := by
  have hentry : (setting.replay start run.result.events)[k]?
      = some (setting.afterAll start (run.result.events.take k), .executed node outcome) := by
    rw [Setting.getElem?_replay, hevent]
    rfl
  exact hr.outcomes _ _ _ (List.mem_of_getElem? hentry)

/-- The state after the errors among its events were told of. -/
def State.tellErrors (setting : Setting σ) (state : State σ) : State σ :=
  { state with
    notices := state.notices
      ++ (state.result.events.filter (!·.succeeded)).map
        (.onError setting.graph.id · state.steps) }

/-- As long as all are successes, there is no error to tell of. -/
theorem State.IsLive.filter_eq_nil (hl : state.IsLive) :
    state.result.events.filter (!·.succeeded) = [] := by
  rw [List.filter_eq_nil_iff]
  intro event hevent
  simp [hl.succeeded event hevent]

/-- An error after successes is all that there is to tell of. -/
theorem tell_eq_tellErrors {event : Event} {events : List Event}
    (hevents : state.result.events = events ++ [event])
    (hnone : events.filter (!·.succeeded) = []) (herror : event.succeeded = false)
    (hworkflow : state.result.workflow = setting.graph.id) :
    state.tell (.onError state.result.workflow event state.steps) = state.tellErrors setting := by
  have hfilter : state.result.events.filter (!·.succeeded) = [event] := by
    rw [hevents, List.filter_append, hnone]
    simp [herror]
  rw [State.tellErrors, hfilter, hworkflow]
  rfl

/-- The chains of a run replay its events, and tell of the error at the end. -/
theorem isReplay_chains (starts : List Node) (state : State σ)
    (hn : ∀ node ∈ starts, setting.graph.node? node.id = some node) (hl : state.IsLive)
    (hr : state.IsReplay setting start opening []) :
    ∃ final : State σ, final.IsReplay setting start opening []
      ∧ chains setting starts state = final.tellErrors setting := by
  obtain ⟨live, hlive, hend⟩ := chains_moves starts state hn
  obtain ⟨hisLive, hreplay⟩ := kept_of_advances
    (P := fun state => state.IsLive ∧ state.IsReplay setting start opening []) hlive
    (fun _ _ hadvance h =>
      ⟨isLive_of_advances hadvance h.1, isReplay_of_advances hadvance h.1 h.2⟩) ⟨hl, hr⟩
  rcases hend with hend | hhalt
  · -- no error, so there is nothing to tell of
    refine ⟨live, hreplay, ?_⟩
    rw [hend, State.tellErrors, hisLive.filter_eq_nil, List.map_nil, List.append_nil]
  · -- the last event is the only error, whichever way the run halts
    generalize chains setting starts state = final at hhalt
    cases hhalt with
    | @failed node fault _ state' _ hs =>
      have hfinal := isReplay_of_step hisLive hreplay hs
      exact ⟨state', hfinal, tell_eq_tellErrors (events_of_step hs) hisLive.filter_eq_nil rfl
        hfinal.workflow⟩
    | @aborted event _ hf =>
      have hfinal := isReplay_record hf hreplay
      exact ⟨live.record event, hfinal, tell_eq_tellErrors rfl hisLive.filter_eq_nil
        (Event.succeeded_of_isFatal hf) hfinal.workflow⟩

/-- A run from start nodes is what its events make of the values and the caller that it
starts with. -/
theorem isReplay_ofGraph (setting : Setting σ) (values : Context) {starts : List Node}
    (hs : ∀ node ∈ starts, node ∈ setting.graph.nodes) (caller : σ) :
    (ofGraph setting values starts caller).IsReplay setting ⟨values, caller⟩
      (.beforeRun setting.graph.id (starts.map (·.id)) values) := by
  have hinitial : (initial setting values starts caller).IsReplay setting ⟨values, caller⟩
      (.beforeRun setting.graph.id (starts.map (·.id)) values) [] :=
    ⟨rfl, rfl, rfl, fun _ _ _ h => absurd h List.not_mem_nil, rfl, rfl⟩
  obtain ⟨final, hfinal, hchains⟩ := isReplay_chains starts _
    (fun node hnode => Graph.node?_of_mem (hs node hnode))
    (isLive_initial setting values starts caller) hinitial
  have hresult : (ofGraph setting values starts caller).result = final.result := by
    rw [ofGraph_result, hchains]
    rfl
  refine ⟨?_, ?_, ?_, ?_⟩
  · rw [hresult, ofGraph_caller, hchains]
    exact hfinal.moment
  · rw [hresult]
    exact hfinal.outcomes
  · rw [hresult, ofGraph_requests, hchains]
    exact hfinal.requests
  · rw [ofGraph_notices, hresult, hchains]
    simp only [State.tellErrors]
    rw [hfinal.notices, hfinal.steps]

end

end Run

end FormAutomation
