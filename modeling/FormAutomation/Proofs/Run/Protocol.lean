import FormAutomation.Proofs.Hook
import FormAutomation.Proofs.Run.Budget
import FormAutomation.Proofs.Run.Replay
import FormAutomation.Proofs.Run.Watch

/-!
# What a run tells, and to whom

A run tells that it begins, then of each node before and after it is executed, then of the
error if there was one, and then that it is over.  There are three ways to come to an
error, and in all of them the steps that were told of are those of the nodes that were
executed.

Each notice reaches the callbacks that were registered for it, whatever they make of it,
and none of them has a say in how the run goes on.
-/

namespace FormAutomation

variable {σ : Type}

/-- A run that tells of what it records, in order. -/
structure Run.KeepsProtocol (graph : Graph) (starts : List Node) (values : Context)
    (run : Run σ) : Prop where
  /-- it begins with where it starts -/
  begins : run.notices.head? = some (.beforeRun graph.id (starts.map (·.id)) values)
  /-- the nodes that were executed are what is recorded first -/
  executed_iff : ∀ k event, run.result.events[k]? = some event →
    (event.isFatal = false ↔ k < run.result.executed)
  /-- each is told of before and after it is executed, as it is seen in its context -/
  steps : ∀ k node outcome, run.result.events[k]? = some (.executed node outcome) →
    run.notices[2 * k + 1]? = some (.beforeNode graph.id node (k + 1))
      ∧ run.notices[2 * k + 2]? = some (.afterNode graph.id node (k + 1)
        ((Event.executed node outcome).toValue ((run.result.events.take k).foldl
          (fun context event => context.overlay event.patch) values)))
  /-- an error at the end is told of after them, and then that the run is over -/
  ends : run.notices.drop (2 * run.result.executed + 1)
    = (run.result.events.getLast?.filter (!·.succeeded)).toList.map
        (.onError graph.id · run.result.executed)
      ++ [.afterRun graph.id run.result.status run.result.visited run.result.toValue]
  /-- it succeeded if all that is recorded are successes -/
  succeeded_iff : run.result.status = "succeeded"
    ↔ ∀ event ∈ run.result.events, event.succeeded = true
  /-- it was aborted if it had to stop at a node that it could not execute -/
  aborted_iff : run.result.status = "aborted" ↔ ∃ event ∈ run.result.events, event.isFatal = true
  /-- it failed if a node did -/
  failed_iff : run.result.status = "failed"
    ↔ ∃ node fault, .executed node (.failure fault) ∈ run.result.events

/-- Something is told to the callbacks, and comes to the same as when there are none. -/
structure Registry.Tells (registry : Registry) (notices : List Notice) {α : Type} (result : α)
    (watched unwatched : Watched α) : Prop where
  /-- each notice reaches those who hear it, in the order in which they were registered -/
  deliveries : watched.deliveries = notices.flatMap fun notice =>
    (registry.subscriptions.filter (·.hears notice)).map (·.delivery notice.payload)
  /-- nothing keeps it from its end -/
  result : watched.result = .ok result
  /-- without callbacks it comes to the same -/
  same : unwatched.result = watched.result

/-! ## The shape of what is recorded -/

namespace Graph.Shape

variable {graph : Graph} {budget left : Nat} {events : List Event} {event : Event} {k : Nat}

/-- What is recorded before something else are successes. -/
theorem succeeded_of_mem_take (h : graph.Shape budget left events) (hk : k < events.length) :
    ∀ event ∈ events.take k, event.succeeded = true := by
  obtain ⟨done, error?, rfl, hdone, -⟩ := h.errorLast
  have hlength : error?.toList.length ≤ 1 := Option.length_toList_le
  rw [List.length_append] at hk
  rw [List.take_append_of_le_length (by omega)]
  intro event hevent
  exact hdone event (List.mem_of_mem_take hevent)

/-- A node that could not be executed is recorded after all that were. -/
theorem isFatal_eq_false_iff (h : graph.Shape budget left events) (hk : events[k]? = some event) :
    event.isFatal = false ↔ k < events.countP (!·.isFatal) := by
  obtain ⟨hlt, hget⟩ := List.getElem?_eq_some_iff.1 hk
  have hsplit : events = events.take k ++ event :: events.drop (k + 1) := by
    rw [← hget, ← List.drop_eq_getElem_cons hlt, List.take_append_drop]
  have hbefore : (events.take k).countP (!·.isFatal) = k := by
    rw [List.countP_eq_length.2, List.length_take_of_le (Nat.le_of_lt hlt)]
    intro other hother
    simp [Event.isFatal_of_succeeded (h.succeeded_of_mem_take hlt other hother)]
  have hcount : events.countP (!·.isFatal)
      = k + (event :: events.drop (k + 1)).countP (!·.isFatal) := by
    conv_lhs => rw [hsplit, List.countP_append, hbefore]
  rw [hcount]
  constructor
  · -- the event itself is one more
    intro hfatal
    rw [List.countP_cons_of_pos (by simp [hfatal])]
    omega
  · -- nothing comes after it to be counted
    intro hlt'
    by_contra hfatal
    rw [Bool.not_eq_false] at hfatal
    rw [h.eq_nil_of_error hsplit (Event.succeeded_of_isFatal hfatal),
      List.countP_cons_of_neg (by simp [hfatal]), List.countP_nil] at hlt'
    omega

/-- Only what is recorded last can be an error. -/
theorem filter_error_eq (h : graph.Shape budget left events) :
    events.filter (!·.succeeded) = (events.getLast?.filter (!·.succeeded)).toList := by
  obtain ⟨done, error?, rfl, hdone, herror⟩ := h.errorLast
  have hnone : done.filter (!·.succeeded) = [] := by
    rw [List.filter_eq_nil_iff]
    intro event hevent
    simp [hdone event hevent]
  rw [List.filter_append, hnone, List.nil_append]
  rcases error? with _ | error
  · rw [Option.toList_none, List.append_nil, List.filter_nil]
    rcases hlast : done.getLast? with _ | last
    · rfl
    · rw [Option.filter_some, hdone last (List.mem_of_getLast? hlast)]
      rfl
  · rw [Option.toList_some, List.getLast?_concat, List.filter_singleton, Option.filter_some,
      herror error rfl]
    rfl

end Graph.Shape

/-! ## How a run ended, in a word -/

namespace RunResult

variable {result : RunResult}

theorem status_eq_succeeded_iff (hr : result.rejected = []) :
    result.status = "succeeded" ↔ ∀ event ∈ result.events, event.succeeded = true := by
  have hsucceeded : result.succeeded = true ↔ ∀ event ∈ result.events, event.succeeded = true := by
    rw [succeeded, hr, List.isEmpty_nil, Bool.true_and, List.all_eq_true]
  rw [← hsucceeded, status]
  split
  · next hs => simp [hs]
  · next hs =>
    split
    · simp [hs]
    · simp [hs]

theorem status_eq_aborted_iff :
    result.status = "aborted" ↔ ∃ event ∈ result.events, event.isFatal = true := by
  have haborted : result.aborted = true ↔ ∃ event ∈ result.events, event.isFatal = true :=
    List.any_eq_true
  have hexclusive : result.aborted = true → result.succeeded = false := by
    intro ha
    obtain ⟨event, hevent, hfatal⟩ := haborted.1 ha
    rw [succeeded, List.all_eq_false.2 ⟨event, hevent, by simp [Event.succeeded_of_isFatal hfatal]⟩,
      Bool.and_false]
  rw [← haborted, status]
  rcases ha : result.aborted with _ | _
  · rcases result.succeeded with _ | _ <;> simp
  · simp [hexclusive ha]

/-- One of the three words is said. -/
theorem status_eq_failed_iff_not :
    result.status = "failed" ↔ result.status ≠ "succeeded" ∧ result.status ≠ "aborted" := by
  rw [status]
  split
  · simp
  · split <;> simp

/-- Nodes that fail and nodes that cannot be executed do not come together. -/
theorem status_eq_failed_iff {graph : Graph} {budget left : Nat}
    (h : graph.Shape budget left result.events) (hr : result.rejected = []) :
    result.status = "failed"
      ↔ ∃ node fault, .executed node (.failure fault) ∈ result.events := by
  rw [status_eq_failed_iff_not, ne_eq, ne_eq, status_eq_succeeded_iff hr, status_eq_aborted_iff]
  constructor
  · rintro ⟨herror, hnone⟩
    obtain ⟨event, hevent, hnot⟩ : ∃ event ∈ result.events, event.succeeded ≠ true := by
      simpa using herror
    rcases event with ⟨node, effect | fault⟩ | ⟨node, budget⟩ | id
    · exact absurd rfl hnot
    · exact ⟨node, fault, hevent⟩
    · exact absurd ⟨_, hevent, rfl⟩ hnone
    · exact absurd ⟨_, hevent, rfl⟩ hnone
  · rintro ⟨node, fault, hfailed⟩
    refine ⟨fun hall => Bool.false_ne_true (hall _ hfailed), ?_⟩
    rintro ⟨event, hevent, hfatal⟩
    -- there would be two errors, and one of them would not be the last
    have hlast : ∀ other ∈ result.events, other.succeeded = false →
        other ∈ (result.events.getLast?.filter (!·.succeeded)).toList := by
      intro other hother herror
      rw [← h.filter_error_eq]
      exact List.mem_filter.2 ⟨hother, by simp [herror]⟩
    have hone := Option.mem_unique (Option.mem_toList.1 (hlast _ hfailed rfl))
      (Option.mem_toList.1 (hlast event hevent (Event.succeeded_of_isFatal hfatal)))
    rw [← hone] at hfatal
    cases hfatal

end RunResult

/-! ## The notices of events -/

namespace Run

namespace Setting

variable {setting : Setting σ} {start : Moment σ} {events : List Event} {step : Nat}

/-- What is told of events, the first of which is that of a step. -/
def told (setting : Setting σ) (start : Moment σ) (events : List Event) (step : Nat) :
    List Notice :=
  ((setting.replay start events).zipIdx step).flatMap
    fun entry => setting.noticesAt entry.1.1 entry.1.2 entry.2

theorem told_cons (event : Event) :
    setting.told start (event :: events) step
      = setting.noticesAt start event step
        ++ setting.told (setting.after start event) events (step + 1) := rfl

/-- There are two notices of a node that was executed, and none of one that was not. -/
theorem length_told :
    (setting.told start events step).length = 2 * events.countP (!·.isFatal) := by
  induction events generalizing start step with
  | nil => rfl
  | cons event rest ih =>
    rw [told_cons, List.length_append, ih]
    cases event with
    | executed node outcome =>
      rw [List.countP_cons_of_pos rfl, Nat.mul_add, Nat.add_comm]
      rfl
    | exhausted node budget => exact Nat.zero_add _
    | lost id => exact Nat.zero_add _

/-- As long as nodes are executed, there are two notices of each. -/
theorem drop_told (setting : Setting σ) (start : Moment σ) (step : Nat) {k : Nat}
    {event : Event} (hk : events[k]? = some event)
    (hs : ∀ event ∈ events.take k, event.isFatal = false) :
    ∃ rest, (setting.told start events step).drop (2 * k)
      = setting.noticesAt (setting.afterAll start (events.take k)) event (step + k) ++ rest := by
  induction k generalizing start events step with
  | zero =>
    obtain ⟨rest, rfl⟩ : ∃ rest, events = event :: rest := by
      cases events with
      | nil => cases hk
      | cons first rest => exact ⟨rest, by rw [Option.some.inj hk]⟩
    exact ⟨_, told_cons event⟩
  | succ k ih =>
    cases events with
    | nil => cases hk
    | cons first rest =>
      rw [List.take_succ_cons, List.forall_mem_cons] at hs
      obtain ⟨more, hmore⟩ := ih (setting.after start first) (step + 1) hk hs.2
      -- the first event is that of a node that was executed, so two notices go with it
      have htwo : (setting.noticesAt start first step).length = 2 := by
        cases first with
        | executed node outcome => rfl
        | exhausted node budget => cases hs.1
        | lost id => cases hs.1
      refine ⟨more, ?_⟩
      rw [told_cons, List.drop_append, htwo, List.drop_eq_nil_of_le (by omega), List.nil_append]
      rw [show 2 * (k + 1) - 2 = 2 * k by omega, hmore, Nat.add_assoc, Nat.add_comm 1 k]
      rfl

end Setting

/-! ## Runs -/

variable {setting : Setting σ} {start : Moment σ} {opening : Notice} {run : Run σ}
  {values : Context} {starts : List Node}

/-- What is told comes in four parts. -/
theorem IsReplay.notices_eq (hr : run.IsReplay setting start opening) :
    run.notices = opening :: (setting.told start run.result.events 1
      ++ ((run.result.events.filter (!·.succeeded)).map
          (.onError setting.graph.id · run.result.executed)
        ++ [.afterRun setting.graph.id run.result.status run.result.visited
          run.result.toValue])) := by
  rw [hr.notices, List.cons_append, List.cons_append, List.append_assoc]
  rfl

/-- After two notices of each event before, those of the next one are given. -/
theorem IsReplay.drop_notices {budget left k : Nat} {event : Event}
    (hr : run.IsReplay setting start opening)
    (hs : setting.graph.Shape budget left run.result.events)
    (hk : run.result.events[k]? = some event) (hf : event.isFatal = false) :
    ∃ rest, run.notices.drop (2 * k + 1)
      = setting.noticesAt (setting.afterAll start (run.result.events.take k)) event (k + 1)
        ++ rest := by
  have hlength : (setting.told start run.result.events 1).length = 2 * run.result.executed :=
    Setting.length_told
  have hlt : k < run.result.executed := (hs.isFatal_eq_false_iff hk).1 hf
  have hbefore : ∀ event ∈ run.result.events.take k, event.isFatal = false := by
    intro event hevent
    obtain ⟨hk', -⟩ := List.getElem?_eq_some_iff.1 hk
    exact Event.isFatal_of_succeeded (hs.succeeded_of_mem_take hk' event hevent)
  obtain ⟨rest, hrest⟩ := setting.drop_told start 1 hk hbefore
  rw [hr.notices_eq, List.drop_succ_cons, List.drop_append_of_le_length (by omega), hrest,
    Nat.add_comm 1 k, List.append_assoc]
  exact ⟨_, rfl⟩

/-- A run that is what its events make of where it started tells of them in order. -/
theorem IsReplay.keepsProtocol {caller : σ} {budget left : Nat}
    (hr : run.IsReplay setting ⟨values, caller⟩
      (.beforeRun setting.graph.id (starts.map (·.id)) values))
    (hs : setting.graph.Shape budget left run.result.events) (hj : run.result.rejected = []) :
    run.KeepsProtocol setting.graph starts values := by
  refine ⟨?_, fun k event hk => hs.isFatal_eq_false_iff hk, ?_, ?_,
    RunResult.status_eq_succeeded_iff hj, RunResult.status_eq_aborted_iff,
    RunResult.status_eq_failed_iff hs hj⟩
  · rw [hr.notices]
    rfl
  · intro k node outcome hk
    obtain ⟨rest, hrest⟩ := hr.drop_notices hs hk rfl
    have hcontext : (setting.afterAll ⟨values, caller⟩ (run.result.events.take k)).context = _ :=
      Setting.context_afterAll _ _
    rw [← hcontext]
    constructor
    · rw [← Nat.add_zero (2 * k + 1), ← List.getElem?_drop, hrest]
      rfl
    · rw [show 2 * k + 2 = 2 * k + 1 + 1 from rfl, ← List.getElem?_drop, hrest]
      rfl
  · have hlength : (setting.told ⟨values, caller⟩ run.result.events 1).length
        = 2 * run.result.executed := Setting.length_told
    rw [hr.notices_eq, List.drop_succ_cons, ← hlength, List.drop_left, hs.filter_error_eq]

/-- A run from start nodes was not refused. -/
theorem rejected_ofGraph (setting : Setting σ) (values : Context)
    (hs : ∀ node ∈ starts, node ∈ setting.graph.nodes) (caller : σ) :
    (ofGraph setting values starts caller).result.rejected = [] := by
  rw [ofGraph_result]
  refine kept_by_chains (P := fun state : State σ => state.result.rejected = []) ?_ ?_ starts _
    (fun node hnode => Graph.node?_of_mem (hs node hnode)) rfl
  · rintro _ _ ⟨-, hstep⟩ hnone
    have hresult := result_of_step hstep
    simp [State.apply, hresult, hnone]
  · rintro _ _ (⟨-, hstep⟩ | hfatal) hnone
    · have hresult := result_of_step hstep
      simp [hresult, hnone]
    · simp [State.abort, State.record, hnone]

end Run

/-- What is passed on to callbacks that keep what they are given is told to them. -/
theorem Registry.tells_passOn {α : Type} {registry : Registry} (hm : registry.IsMade)
    (hk : ∀ subscription ∈ registry.subscriptions, subscription.callback.KeepsPayload)
    (notices : List Notice) (result : α) :
    registry.Tells notices result (registry.passOn notices result)
      (Registry.empty.passOn notices result) := by
  have hnobody : ∀ subscription ∈ Registry.empty.subscriptions,
      subscription.callback.KeepsPayload := fun _ h => absurd h List.not_mem_nil
  rw [passOn, passOn, emitAll_eq hm hk, emitAll_eq .empty hnobody]
  exact ⟨rfl, rfl, rfl⟩

/-- What the gate lets through tells of what it records. -/
theorem Graph.keepsProtocol_of_gate {graph : Graph} {options : RunOptions}
    (h : options.gate = true → graph.isValid = true) (values : Context)
    (caller? : Option (Caller σ)) (event : Option FormEvent) (caller : σ) :
    (graph.run options values caller? event caller).KeepsProtocol graph (graph.startNodes event)
      values := by
  obtain ⟨trails, htrails, hevents⟩ := run_trails h values caller? event caller
  have hshape := htrails.shape
  rw [← hevents] at hshape
  rw [run_eq_ofGraph h] at hshape ⊢
  exact (Run.isReplay_ofGraph (options.setting graph caller?) values
    (fun _ => mem_nodes_of_mem_startNodes) caller).keepsProtocol hshape
    (Run.rejected_ofGraph _ values (fun _ => mem_nodes_of_mem_startNodes) caller)

/-- A run that is neither refused nor that of a workflow which is not enabled tells what it
does in order, to every callback that is registered for it, and whatever they make of it
comes to the same as if there were none. -/
theorem keepsProtocol_run (options : RunOptions) (values : Context) (caller? : Option (Caller σ))
    (event : Option FormEvent) (caller : σ) :
    (∀ graph : Graph, (options.gate = true → graph.isValid = true) →
        let run := graph.run options values caller? event caller
        run.KeepsProtocol graph (graph.startNodes event) values
          ∧ ∀ registry : Registry, registry.IsMade →
            (∀ subscription ∈ registry.subscriptions, subscription.callback.KeepsPayload) →
              registry.Tells run.notices run
                (graph.watchedRun registry options values caller? event caller)
                (graph.watchedRun .empty options values caller? event caller))
      ∧ ∀ workflow : Workflow, workflow.enabled = true →
        (options.gate = true → workflow.isValid = true) →
          let run := workflow.run options values caller? event caller
          run.KeepsProtocol workflow.toGraph (workflow.startNodes event) values
            ∧ ∀ registry : Registry, registry.IsMade →
              (∀ subscription ∈ registry.subscriptions, subscription.callback.KeepsPayload) →
                registry.Tells run.notices run
                  (workflow.watchedRun registry options values caller? event caller)
                  (workflow.watchedRun .empty options values caller? event caller) := by
  constructor
  · intro graph hgate run
    refine ⟨Graph.keepsProtocol_of_gate hgate values caller? event caller, ?_⟩
    intro registry hmade hkeeps
    rw [Graph.watchedRun_eq, Graph.watchedRun_eq]
    exact Registry.tells_passOn hmade hkeeps run.notices run
  · intro workflow henabled hgate run
    have hrun : run = workflow.toGraph.run options values caller? event caller :=
      Workflow.run_of_enabled henabled options values caller? event caller
    refine ⟨?_, ?_⟩
    · rw [hrun]
      exact Graph.keepsProtocol_of_gate hgate values caller? event caller
    · intro registry hmade hkeeps
      rw [Workflow.watchedRun_eq, Workflow.watchedRun_eq]
      exact Registry.tells_passOn hmade hkeeps run.notices run

/-- A callback that fails is told of every node, and another one of conditions only. -/
def Registry.auditors : Registry :=
  (empty.register .afterNode ⟨"trace", "trace", fun payload => ⟨payload, .error "ValueError: full"⟩⟩
      none).register .afterNode ⟨"branch", "branch", fun payload => ⟨payload, .ok .null⟩⟩
    (some ["condition"])

/-- The last of the five nodes in the way of these chains is not executed, and the others
are told of whatever the first callback does. -/
theorem keepsProtocol_run_greeting :
    Workflow.greeting.isValid = true ∧ Workflow.greeting.enabled = true
      ∧ Registry.auditors.IsMade
      ∧ (∀ subscription ∈ Registry.auditors.subscriptions, subscription.callback.KeepsPayload)
      ∧ let run := Workflow.greeting.run .fourGated [] (none : Option (Caller Unit)) none ()
        let watched := Workflow.greeting.watchedRun .auditors .fourGated []
          (none : Option (Caller Unit)) none ()
        run.KeepsProtocol Workflow.greeting.toGraph (Workflow.greeting.startNodes none) []
          ∧ Registry.auditors.Tells run.notices run watched
            (Workflow.greeting.watchedRun .empty .fourGated [] none none ())
          ∧ watched.deliveries.map (·.callback.id)
            = ["trace", "trace", "branch", "trace", "trace"] := by
  have hvalid := Workflow.isValid_greeting
  have henabled : Workflow.greeting.enabled = true := rfl
  have hmade : Registry.auditors.IsMade := (Registry.IsMade.empty.register _ _ _).register _ _ _
  have hkeeps : ∀ subscription ∈ Registry.auditors.subscriptions,
      subscription.callback.KeepsPayload := by
    simp [Registry.auditors, Registry.register, Registry.empty, Callback.KeepsPayload]
  obtain ⟨-, hworkflow⟩ := keepsProtocol_run .fourGated [] (none : Option (Caller Unit)) none ()
  obtain ⟨hprotocol, htells⟩ := hworkflow Workflow.greeting henabled fun _ => hvalid
  refine ⟨hvalid, henabled, hmade, hkeeps, hprotocol, htells _ hmade hkeeps, ?_⟩
  have hgate : ¬ (RunOptions.fourGated.gate && !Workflow.greeting.toGraph.isValid) = true := by
    simp [hvalid]
  rw [Workflow.watchedRun, if_pos henabled, Graph.watchedRun, if_neg hgate]
  decide +kernel

end FormAutomation
