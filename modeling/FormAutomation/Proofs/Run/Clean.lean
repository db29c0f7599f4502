import FormAutomation.Proofs.Execution.Answer

/-!
# What a failed node leaves behind in a run

A step records what came of its node and changes nothing else, whether the node succeeded, failed
or took too long; what a success did is put into effect after it.  To take too long is an error
like any other: it does not matter what the late answer was.

So a run in which a node fails is, but for the event that says so, where it was before that node
had its turn.
-/

namespace FormAutomation

open Relation

variable {σ : Type}

/-- An event shows what is told of its node in a context. -/
structure Event.Shows (event : Event) (context : Context) (outcome : NodeOutcome Value) :
    Prop where
  /-- how it ended -/
  status : event.status = outcome.status.name
  /-- what went wrong -/
  error : event.error? = outcome.error
  /-- the branch that was taken -/
  branch : event.branch? = outcome.branch
  /-- the data, if there are any -/
  data : event.data context = outcome.data.getD .null

theorem Event.shows_executed (node : Node) (context : Context) (outcome : Outcome) :
    (Event.executed node outcome).Shows context (outcome.told context) := by
  cases outcome with
  | success effect =>
    refine ⟨rfl, rfl, rfl, ?_⟩
    simp only [Event.data, Outcome.told, Things.outcome]
    cases effect.report <;> rfl
  | failure fault => exact ⟨rfl, rfl, rfl, rfl⟩

namespace Run

/-- A step of a run is as clean as the execution of its node. -/
structure StepsCleanly (setting : Setting σ) (node : Node) (state : State σ) : Prop where
  /-- it fails with a fault of its own if the answer comes too late, and for no other reason -/
  late_iff : setting.timeout.lt
      (node.execute state.result.context setting.caller? state.caller).delay = true
    ↔ (step setting node state).1 = .failure (.timeout node.id setting.timeout)
  /-- what comes in time is what comes of the step -/
  inTime : setting.timeout.lt
      (node.execute state.result.context setting.caller? state.caller).delay = false →
    (step setting node state).1
      = (node.execute state.result.context setting.caller? state.caller).outcome
  /-- in both cases the outcome is clean -/
  clean : ((step setting node state).1.told state.result.context).IsClean node.kind.name
  /-- the event shows it, in whatever context it is looked at -/
  shown : ∀ context, (Event.executed node (step setting node state).1).Shows context
    ((step setting node state).1.told context)
  /-- and is all that is new: the context, the form, the page and the message stay -/
  result : (step setting node state).2.result
    = { state.result with
        events := state.result.events ++ [.executed node (step setting node state).1] }

/-- The result of a run in which a node fails is what there was before, with the event of the
failure at the end. -/
structure FailsCleanly (setting : Setting σ) (start : State σ) (result : RunResult) : Prop where
  /-- the run went on with success until the node failed, and left everything as it was then -/
  failed : ∀ node fault, .executed node (.failure fault) ∈ result.events →
    ∃ live, ReflTransGen (Advances setting) start live ∧ live.IsLive
      ∧ (step setting node live).1 = .failure fault
      ∧ result
        = { live.result with
            events := live.result.events ++ [.executed node (.failure fault)] }

/-! ## Steps -/

variable {setting : Setting σ} {node : Node} {state : State σ}

/-- Nothing that is executed reports that it took too long. -/
theorem outcome_ne_timeout {context : Context} {caller? : Option (Caller σ)} {caller : σ}
    {id : String} {seconds : Binary64} :
    (node.execute context caller? caller).outcome ≠ .failure (.timeout id seconds) := by
  intro h
  cases fails_of_execute h with
  | call he hf => cases hf

/-- Every step is clean. -/
theorem stepsCleanly (setting : Setting σ) (node : Node) (state : State σ) :
    StepsCleanly setting node state := by
  have hstep : step setting node state
      = ((step setting node state).1, (step setting node state).2) := rfl
  have houtcome := outcome_of_step hstep
  rw [Setting.limit] at houtcome
  refine ⟨?_, ?_, ?_, fun context => Event.shows_executed node context _,
    result_of_step hstep⟩
  · rw [houtcome]
    cases setting.timeout.lt
      (node.execute state.result.context setting.caller? state.caller).delay with
    | false => exact iff_of_false Bool.false_ne_true outcome_ne_timeout
    | true => exact iff_of_true rfl rfl
  · intro htime
    rw [houtcome, htime]
    rfl
  · rw [houtcome]
    split
    · exact NodeOutcome.isClean_failed
    · exact node.isClean_told_execute _ _ _

/-! ## Runs -/

theorem failsCleanly_ofGraph (values : Context) {starts : List Node}
    (hs : ∀ node ∈ starts, node ∈ setting.graph.nodes) (caller : σ) :
    FailsCleanly setting (initial setting values starts caller)
      (ofGraph setting values starts caller).result := by
  refine ⟨fun node fault hevent => ?_⟩
  obtain ⟨live, hlive, hend⟩ := chains_moves starts (initial setting values starts caller)
    fun node hnode => Graph.node?_of_mem (hs node hnode)
  have hsucceeded : live.IsLive :=
    kept_of_advances hlive (fun _ _ => isLive_of_advances) (isLive_initial _ _ _ _)
  -- a failure is not among the successes
  have hnew : .executed node (.failure fault) ∉ live.result.events := fun hmem =>
    absurd (hsucceeded.succeeded _ hmem) Bool.false_ne_true
  rw [ofGraph_result] at hevent ⊢
  generalize chains setting starts (initial setting values starts caller) = final at hevent hend
  rcases hend with rfl | hhalt
  · exact absurd hevent hnew
  · cases hhalt with
    | @failed node' fault' _ state' hn hstep =>
      rw [State.tell_result, result_of_step hstep] at hevent ⊢
      have hlast := (List.mem_append.1 hevent).resolve_left hnew
      obtain ⟨rfl, hfault⟩ := Event.executed.inj (List.mem_singleton.1 hlast)
      obtain rfl := Outcome.failure.inj hfault
      exact ⟨live, hlive, hsucceeded, by rw [hstep], rfl⟩
    | @aborted event _ hf =>
      rw [State.abort_events] at hevent
      have hlast := (List.mem_append.1 hevent).resolve_left hnew
      obtain rfl := List.mem_singleton.1 hlast
      cases hf

theorem failsCleanly_idle {start : State σ} {result : RunResult} (h : result.events = []) :
    FailsCleanly setting start result := by
  refine ⟨fun node fault hevent => ?_⟩
  rw [h] at hevent
  cases hevent

end Run

/-- Executing a node is clean, by itself and in a run. -/
structure ExecutesCleanly (σ ω : Type) : Prop where
  /-- if whatever is raised can be told, there is an outcome -/
  outcome : ∀ (things : Things ω) (executable : Executable) (agent? : Option (Agent σ ω))
    (scene : Scene σ), executable.isHashable = true →
    (∀ agent ∈ agent?, ∀ request context state raised,
      (agent.call request context state).1 = .error raised → raised.IsTellable) →
    (∀ source thing raised, things.options source thing = .error raised → raised.IsTellable) →
    ∃ outcome, ((executable.attempt things agent?).run scene).1 = .ok outcome
  /-- signals get out, and what is raised when an error is asked for its text, but nothing
  else -/
  raised : ∀ (things : Things ω) (executable : Executable) (agent? : Option (Agent σ ω))
    (scene : Scene σ) (out : Raised), executable.isHashable = true →
    (((executable.attempt things agent?).run scene).1 = .error out
      ↔ executable.LetsOut things agent? scene out)
  /-- an outcome is a success or an error and has nothing of the other -/
  clean : ∀ (things : Things ω) (executable : Executable) (agent? : Option (Agent σ ω))
    (scene : Scene σ) (outcome : NodeOutcome ω),
    ((executable.attempt things agent?).run scene).1 = .ok outcome →
      outcome.IsClean executable.kindName
  /-- the context stays as it is, also when something gets out -/
  context : ∀ (things : Things ω) (executable : Executable) (agent? : Option (Agent σ ω))
    (scene : Scene σ),
    ((executable.attempt things agent?).run scene).2.context = scene.context
  /-- who has a caller executes, and tells what came of it -/
  callers : ∀ (executable : Executable) (caller? : Option (Caller σ)) (scene : Scene σ),
    executable.isHashable = true →
    (executable.attempt Things.values (caller?.map Caller.agent)).run scene
      = (.ok ((executable.execute scene.context caller? scene.agent).outcome.told scene.context),
        scene.past (executable.execute scene.context caller? scene.agent))
  /-- that is an error exactly if there is one of the reasons for it -/
  failure_iff : ∀ (executable : Executable) (context : Context) (caller? : Option (Caller σ))
    (state : σ) (fault : NodeFault), executable.isHashable = true →
    ((executable.execute context caller? state).outcome = .failure fault
      ↔ executable.Fails context caller? state fault)
  /-- a step of a run adds its event, in which a late answer is an error -/
  steps : ∀ (setting : Run.Setting σ) (node : Node) (state : Run.State σ),
    Run.StepsCleanly setting node state
  /-- a failure leaves nothing else behind in the run of a graph -/
  graph : ∀ (graph : Graph) (options : RunOptions) (values : Context)
    (caller? : Option (Caller σ)) (event : Option FormEvent) (caller : σ),
    Run.FailsCleanly (options.setting graph caller?)
      (Run.initial (options.setting graph caller?) values (graph.startNodes event) caller)
      (graph.run options values caller? event caller).result
  /-- nor in that of a workflow -/
  workflow : ∀ (workflow : Workflow) (options : RunOptions) (values : Context)
    (caller? : Option (Caller σ)) (event : Option FormEvent) (caller : σ),
    Run.FailsCleanly (options.setting workflow.toGraph caller?)
      (Run.initial (options.setting workflow.toGraph caller?) values (workflow.startNodes event)
        caller)
      (workflow.run options values caller? event caller).result

/-- Nodes are executed cleanly, whatever they are given and whatever those who are asked return
or raise. -/
theorem executesCleanly (σ ω : Type) : ExecutesCleanly σ ω where
  outcome := fun _ _ _ _ => Executable.exists_outcome
  raised := fun _ _ _ _ _ => Executable.run_attempt_eq_error_iff
  clean := fun _ _ _ _ _ => Executable.isClean_of_run_attempt
  context := Executable.context_run_attempt
  callers := fun _ caller? scene h => Executable.run_attempt_agent h caller? scene
  failure_iff := fun _ _ _ _ _ _ => Executable.outcome_eq_failure_iff
  steps := Run.stepsCleanly
  graph := by
    intro graph options values caller? event caller
    refine graph.run_cases (P := fun run => Run.FailsCleanly _ _ run.result) options values caller?
      event caller (fun _ => Run.failsCleanly_idle rfl) ?_
    exact Run.failsCleanly_ofGraph values (fun _ => Graph.mem_nodes_of_mem_startNodes) caller
  workflow := by
    intro workflow options values caller? event caller
    refine workflow.run_cases (P := fun run => Run.FailsCleanly _ _ run.result) options values
      caller? event caller (fun _ => Run.failsCleanly_idle rfl) ?_
    exact Run.failsCleanly_ofGraph values (fun _ => Graph.mem_nodes_of_mem_startNodes) caller

/-- A node that asks for something. -/
def Node.sending : Node :=
  ⟨"dispatch", "", .callApi ⟨some "https://a.example/", .get, [], none⟩, by decide⟩

/-- Raises this whenever it is asked. -/
def Agent.raising (raised : Raised) : Agent Unit Value where
  call _ _ state := (.error raised, state)

/-- An error of the one who is asked is told in an outcome, a signal is let through, and a failed
call leaves nothing but its event in a run. -/
theorem executesCleanly_sending :
    (Executable.configured .sending).isHashable = true
      ∧ (∃ outcome, (((Executable.configured .sending).attempt Things.values
            (some (.raising (.told .error "ValueError" "no")))).run ⟨[], (), []⟩).1 = .ok outcome
          ∧ outcome.IsClean "callApi")
      ∧ (Executable.configured .sending).LetsOut Things.values
          (some (.raising (.told .signal "CancelledError" ""))) ⟨[], (), []⟩
          (.told .signal "CancelledError" "")
      ∧ (Executable.configured .sending).Fails [] (none : Option (Caller Unit)) () (.noCaller "dispatch")
      ∧ ∃ (node : Node) (fault : NodeFault) (live : Run.State Reply),
        .executed node (.failure fault)
            ∈ (Graph.ratesRun ⟨.error (.callFailed "down"), .zero false⟩).result.events
          ∧ live.IsLive
          ∧ (Graph.ratesRun ⟨.error (.callFailed "down"), .zero false⟩).result
            = { live.result with
                events := live.result.events ++ [.executed node (.failure fault)] } := by
  have hcleanly := executesCleanly Unit Value
  have hfound : (Executable.configured .sending).isHashable = true := rfl
  refine ⟨hfound, ?_, (hcleanly.raised _ _ _ _ _ hfound).1 rfl,
    (hcleanly.failure_iff _ _ _ _ _ hfound).1 rfl, ?_⟩
  · have htellable : ∀ agent ∈ some (Agent.raising (.told .error "ValueError" "no")),
        ∀ request context state raised,
          (agent.call request context state).1 = .error raised → raised.IsTellable := by
      intro agent hagent request context state raised hraised
      obtain rfl := Option.some.inj hagent
      obtain rfl := Except.error.inj hraised
      exact ⟨nofun, "no", rfl⟩
    obtain ⟨outcome, houtcome⟩ :=
      hcleanly.outcome Things.values (.configured .sending) _ ⟨[], (), []⟩ hfound htellable nofun
    exact ⟨outcome, houtcome, hcleanly.clean _ _ _ _ _ houtcome⟩
  · have hlast : ∃ event ∈ (Graph.ratesRun ⟨.error (.callFailed "down"), .zero false⟩).result.events,
        event.succeeded = false ∧ event.isFatal = false := by decide +kernel
    obtain ⟨event, hevent, herror, hfatal⟩ := hlast
    cases event with
    | executed node outcome =>
      cases outcome with
      | success effect => cases herror
      | failure fault =>
        obtain ⟨live, -, hlive, -, hresult⟩ :=
          ((executesCleanly Reply Value).graph .rates (.ofNumbers 100 (.ofNat 30) false) []
            (some .constant) none ⟨.error (.callFailed "down"), .zero false⟩).failed _ _ hevent
        exact ⟨node, fault, live, hevent, hlive, hresult⟩
    | exhausted node budget => cases hfatal
    | lost id => cases hfatal

/-- There is nothing under a list that could be looked up, and that a caller is cancelled is not
told in an outcome. -/
theorem run_attempt_list_and_cancelled :
    (((Executable.bare "n" (.list [.text "page"])).attempt (σ := Unit) Things.values none).run
        ⟨[], (), []⟩).1
      = .error (.told .error "TypeError" "unhashable type: 'list'")
    ∧ (((Executable.configured .sending).attempt Things.values
          (some (.raising (.told .signal "CancelledError" "")))).run ⟨[], (), []⟩).1
      = .error (.told .signal "CancelledError" "") := by
  constructor
  · rfl
  · rfl

end FormAutomation
