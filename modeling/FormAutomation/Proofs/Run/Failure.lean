import FormAutomation.Proofs.Check.Invariants
import FormAutomation.Proofs.Condition.Overflow
import FormAutomation.Proofs.Run.Calls
import FormAutomation.Proofs.Run.Chain

/-!
# Why steps of a valid graph fail

Nothing that a node needs is left open in a valid graph, so its steps fail for reasons
that lie outside: the caller has no answer to a request, or has it too late, or a
condition asks for the order of a number that is too large to be ordered.  Each of them
is an *excuse* that can be read off the moment of the step, and a step fails exactly if
it has one; nodes that neither make requests nor compare never fail.
-/

namespace FormAutomation

/-- Whether a fault can befall a node of a kind of which nothing is left open. -/
def NodeFault.befalls (fault : NodeFault) (kind : NodeKind) : Bool :=
  match fault with
  | .timeout _ _ => kind.makesRequests
  | .callFailed _ _ => kind.makesRequests
  | .toldByCaller _ => kind.makesRequests
  | .condition .overflow => kind == .condition
  | _ => false

namespace Run

variable {σ : Type}

/-- A node makes a request at a moment, and this is what comes back. -/
def Replies (caller : Caller σ) (moment : Moment σ) (node : Node) (request : Request)
    (reply : Reply) : Prop :=
  (Visit.mk moment.context node).request? = some request
    ∧ (caller.call request moment.context moment.caller).1 = reply

/-- Why the step of a node at a moment fails although nothing is left open. -/
inductive IsExcused (caller : Caller σ) (timeout : Binary64) (moment : Moment σ) (node : Node) :
    NodeFault → Prop where
  /-- the reply comes too late -/
  | late {request : Request} {reply : Reply} (hr : Replies caller moment node request reply)
      (hl : timeout.lt reply.delay = true) :
      IsExcused caller timeout moment node (.timeout node.id timeout)
  /-- it comes in time, and says why the node fails -/
  | told {request : Request} {reply : Reply} {message : String}
      (hr : Replies caller moment node request reply) (hl : timeout.lt reply.delay = false)
      (he : reply.response = .error (.nodeFailed message)) :
      IsExcused caller timeout moment node (.toldByCaller message)
  /-- it comes in time, and says why the call failed -/
  | failed {request : Request} {reply : Reply} {message : String}
      (hr : Replies caller moment node request reply) (hl : timeout.lt reply.delay = false)
      (he : reply.response = .error (.callFailed message)) :
      IsExcused caller timeout moment node (.callFailed request message)
  /-- the order is asked for of a number that is out of range -/
  | overflow {field : String} {operator : Condition.Operator} {expected : Option Scalar}
      (ha : node.action = .condition (some field) (some operator) expected)
      (ho : operator.IsOrder)
      (hv : (moment.context.resolve field).IsOutOfRange
        ∨ ((expected.map Scalar.toValue).getD .null).IsOutOfRange) :
      IsExcused caller timeout moment node (.condition .overflow)

/-- Every step of a run that fails has an excuse, and every step that has one fails. -/
structure FailsOnlyExcused (setting : Setting σ) (caller : Caller σ) (values : Context)
    (start : σ) (run : Run σ) : Prop where
  /-- the faults are the excuses at the moments of the steps -/
  failure_iff : ∀ k node outcome, run.result.events[k]? = some (.executed node outcome) →
    ∀ fault, outcome = .failure fault
      ↔ IsExcused caller setting.timeout
        (setting.afterAll ⟨values, start⟩ (run.result.events.take k)) node fault
  /-- they befall nodes of the kinds that they can befall -/
  befalls : ∀ node fault, .executed node (.failure fault) ∈ run.result.events →
    fault.befalls node.kind = true
  /-- so nodes that neither make requests nor compare succeed -/
  succeeds : ∀ node outcome, .executed node outcome ∈ run.result.events →
    node.kind.makesRequests = false → node.kind ≠ .condition →
      ∃ effect, outcome = .success effect

variable {setting : Setting σ} {caller : Caller σ} {timeout : Binary64} {moment : Moment σ}
  {node : Node} {fault : NodeFault}

/-! ## Excuses -/

/-- Only nodes of some kinds make requests. -/
theorem makesRequests_of_replies {request : Request} {reply : Reply}
    (h : Replies caller moment node request reply) : node.kind.makesRequests = true := by
  obtain ⟨endpoint, hendpoint, -⟩ := Option.bind_eq_some_iff.1 h.1
  change node.action.endpoint? = some endpoint at hendpoint
  unfold Node.kind
  cases ha : node.action with
  | callApi endpoint => rfl
  | fetchOptions endpoint source => rfl
  | _ =>
    rw [ha] at hendpoint
    cases hendpoint

theorem IsExcused.befalls (h : IsExcused caller timeout moment node fault) :
    fault.befalls node.kind = true := by
  cases h with
  | late hr hl => exact makesRequests_of_replies hr
  | told hr hl he => exact makesRequests_of_replies hr
  | failed hr hl he => exact makesRequests_of_replies hr
  | overflow ha ho hv =>
    rw [Node.kind, ha]
    rfl

/-- A node that neither makes requests nor compares has no excuse. -/
theorem not_isExcused (hr : node.kind.makesRequests = false) (hc : node.kind ≠ .condition) :
    ¬ IsExcused caller timeout moment node fault := by
  intro h
  have hbefalls := h.befalls
  cases h with
  | overflow ha ho hv => exact hc (beq_iff_eq.1 hbefalls)
  | _ => exact absurd (hr.symm.trans hbefalls) Bool.false_ne_true

/-- What a reply excuses is read off the reply. -/
theorem isExcused_iff_of_replies {request : Request} {reply : Reply}
    (hr : Replies caller moment node request reply) :
    IsExcused caller timeout moment node fault
      ↔ timeout.lt reply.delay = true ∧ .timeout node.id timeout = fault
        ∨ timeout.lt reply.delay = false
          ∧ ((∃ message, reply.response = .error (.nodeFailed message)
              ∧ .toldByCaller message = fault)
            ∨ ∃ message, reply.response = .error (.callFailed message)
              ∧ .callFailed request message = fault) := by
  -- there is one request, and one reply to it
  have hunique : ∀ request' reply', Replies caller moment node request' reply' →
      request' = request ∧ reply' = reply := by
    rintro request' reply' ⟨hrequest, rfl⟩
    obtain rfl := Option.some.inj (hrequest.symm.trans hr.1)
    exact ⟨rfl, hr.2⟩
  constructor
  · intro h
    cases h with
    | late hr' hl =>
      obtain ⟨rfl, rfl⟩ := hunique _ _ hr'
      exact .inl ⟨hl, rfl⟩
    | told hr' hl he =>
      obtain ⟨rfl, rfl⟩ := hunique _ _ hr'
      exact .inr ⟨hl, .inl ⟨_, he, rfl⟩⟩
    | failed hr' hl he =>
      obtain ⟨rfl, rfl⟩ := hunique _ _ hr'
      exact .inr ⟨hl, .inr ⟨_, he, rfl⟩⟩
    | overflow ha ho hv =>
      have hkind := makesRequests_of_replies hr
      rw [Node.kind, ha] at hkind
      cases hkind
  · rintro (⟨hl, rfl⟩ | ⟨hl, ⟨message, he, rfl⟩ | ⟨message, he, rfl⟩⟩)
    · exact .late hr hl
    · exact .told hr hl he
    · exact .failed hr hl he

/-! ## Steps -/

/-- A call fails exactly if its reply excuses it. -/
theorem limit_executeCall_eq_failure_iff {endpoint : Endpoint} {request : Request}
    {does : Value → Effect} (hv : (Visit.mk moment.context node).request? = some request)
    (hr : endpoint.request? moment.context = some request) :
    setting.limit node
        (executeCall node.id endpoint moment.context (some caller) moment.caller does)
          = .failure fault
      ↔ IsExcused caller setting.timeout moment node fault := by
  rcases hc : caller.call request moment.context moment.caller with ⟨⟨response, delay⟩, state⟩
  rw [isExcused_iff_of_replies ⟨hv, congrArg Prod.fst hc⟩]
  simp only [Setting.limit, executeCall, hr, hc]
  cases setting.timeout.lt delay with
  | true => simp
  | false =>
    rcases response with (message | message) | response
    · simp
    · simp
    · simp

/-- A condition with a field and an operator fails exactly if it cannot be evaluated. -/
theorem executeCondition_eq_failure_iff_holds {id field : String} {operator : Condition.Operator}
    {expected : Option Scalar} {context : Context} (hne : field ≠ "") :
    executeCondition id (some field) (some operator) expected context = .failure fault
      ↔ ∃ cause, Condition.holds operator (context.resolve field)
          ((expected.map Scalar.toValue).getD .null) = .error cause ∧ .condition cause = fault := by
  have hfield : (some field).filter (· ≠ "") = some field := by simp [hne]
  simp only [executeCondition, hfield, Context.resolve]
  cases Condition.holds operator ((context.read field).toValue context)
    ((expected.map Scalar.toValue).getD .null) <;> simp

/-- A condition that compares a field fails exactly if the order is asked for of a number
that is out of range. -/
theorem executeCondition_eq_failure_iff {field : String} {operator : Condition.Operator}
    {expected : Option Scalar}
    (ha : node.action = .condition (some field) (some operator) expected) (hne : field ≠ "") :
    executeCondition node.id (some field) (some operator) expected moment.context
        = .failure fault
      ↔ IsExcused caller timeout moment node fault := by
  rw [executeCondition_eq_failure_iff_holds hne]
  constructor
  · rintro ⟨cause, hcause, rfl⟩
    obtain ⟨ho, hv, rfl⟩ := Condition.holds_eq_error_iff.1 hcause
    exact .overflow ha ho hv
  · intro h
    cases h with
    | overflow ha' ho hv =>
      obtain ⟨⟨rfl⟩, ⟨rfl⟩, rfl⟩ := Action.condition.inj (ha.symm.trans ha')
      exact ⟨.overflow, Condition.holds_eq_error_iff.2 ⟨ho, hv, rfl⟩, rfl⟩
    | late hr hl | told hr hl he | failed hr hl he =>
      have hkind := makesRequests_of_replies hr
      rw [Node.kind, ha] at hkind
      cases hkind

/-- What says something can be filled. -/
theorem exists_filled_of_says {text? : Option String} (h : Says text?) (context : Context) :
    ∃ text, fillIfSaid text? context = some text := by
  obtain ⟨template, htemplate, hne⟩ := h
  exact ⟨_, fillIfSaid_eq_some_iff.2 ⟨template, htemplate, hne, rfl⟩⟩

/-- An endpoint with an address has a request. -/
theorem exists_request_of_says {endpoint : Endpoint} (h : Says endpoint.url)
    (context : Context) : ∃ request, endpoint.request? context = some request := by
  obtain ⟨url, hurl⟩ := exists_filled_of_says h context
  rw [Endpoint.request?, hurl]
  exact ⟨_, rfl⟩

/-- A node of which nothing is left open succeeds if it neither makes requests nor
compares. -/
theorem exists_effect_of_isConfigured {action : Action} (ha : action.IsConfigured)
    (hr : action.kind.makesRequests = false) (hc : action.kind ≠ .condition) (id : String)
    (context : Context) : ∃ effect, executeLocal id action context = .success effect := by
  cases action with
  | redirect url newTab =>
    obtain ⟨text, htext⟩ := exists_filled_of_says ha context
    simp only [executeLocal, htext]
    exact ⟨_, rfl⟩
  | callApi endpoint => cases hr
  | fetchOptions endpoint source => cases hr
  | condition field operator expected => exact absurd rfl hc
  | _ => exact ⟨_, rfl⟩

/-- A node that makes no requests takes no time. -/
theorem limit_executionAt_of_local (ht : setting.timeout.lt (.zero false) = false)
    (hr : node.kind.makesRequests = false) :
    setting.limit node (setting.executionAt moment node)
      = executeLocal node.id node.action moment.context := by
  unfold Setting.limit Setting.executionAt Node.execute
  unfold Node.kind at hr
  cases ha : node.action with
  | callApi endpoint =>
    rw [ha] at hr
    cases hr
  | fetchOptions endpoint source =>
    rw [ha] at hr
    cases hr
  | _ => simp only [ht, Bool.false_eq_true, if_false]

/-- The step of a node of which nothing is left open fails exactly if it has an excuse. -/
theorem limit_eq_failure_iff (hc : setting.caller? = some caller)
    (ht : setting.timeout.lt (.zero false) = false) (hn : node.action.IsConfigured) :
    setting.limit node (setting.executionAt moment node) = .failure fault
      ↔ IsExcused caller setting.timeout moment node fault := by
  -- both kinds of call are calls, and the others are local
  have hcall : ∀ endpoint does, node.action.endpoint? = some endpoint → Says endpoint.url →
      setting.executionAt moment node
        = executeCall node.id endpoint moment.context (some caller) moment.caller does →
      (setting.limit node (setting.executionAt moment node) = .failure fault
        ↔ IsExcused caller setting.timeout moment node fault) := by
    intro endpoint does hendpoint hsays hexecution
    obtain ⟨request, hrequest⟩ := exists_request_of_says hsays moment.context
    rw [hexecution]
    refine limit_executeCall_eq_failure_iff ?_ hrequest
    rw [Visit.request?, hendpoint, Option.bind_some, hrequest]
  have hlocal : node.kind.makesRequests = false → node.kind ≠ .condition →
      (setting.limit node (setting.executionAt moment node) = .failure fault
        ↔ IsExcused caller setting.timeout moment node fault) := by
    intro hr hcondition
    obtain ⟨effect, heffect⟩ := exists_effect_of_isConfigured hn hr hcondition node.id
      moment.context
    rw [limit_executionAt_of_local ht hr, heffect]
    exact iff_of_false (by simp) (not_isExcused hr hcondition)
  cases ha : node.action with
  | callApi endpoint =>
    rw [ha] at hn
    refine hcall endpoint (callEffect node.id) (by rw [ha]; rfl) hn ?_
    simp only [Setting.executionAt, Node.execute, ha, hc]
  | fetchOptions endpoint source =>
    rw [ha] at hn
    refine hcall endpoint (optionsEffect node.id source) (by rw [ha]; rfl) hn.1 ?_
    simp only [Setting.executionAt, Node.execute, ha, hc]
  | condition field operator expected =>
    rw [ha] at hn
    obtain ⟨⟨field, rfl, hne⟩, hoperator⟩ := hn
    obtain ⟨operator, rfl⟩ := Option.ne_none_iff_exists'.1 hoperator
    rw [limit_executionAt_of_local ht (by rw [Node.kind, ha]; rfl), ha]
    exact executeCondition_eq_failure_iff ha hne
  | _ => exact hlocal (by rw [Node.kind, ha]; rfl) (by rw [Node.kind, ha]; exact nofun)

/-! ## Runs -/

/-- A run that replays steps of nodes of which nothing is left open fails only excused. -/
theorem IsReplay.failsOnlyExcused {start : σ} {values : Context} {opening : Notice}
    {run : Run σ} (hr : run.IsReplay setting ⟨values, start⟩ opening)
    (hc : setting.caller? = some caller) (ht : setting.timeout.lt (.zero false) = false)
    (hn : ∀ node outcome, .executed node outcome ∈ run.result.events →
      node.action.IsConfigured) : run.FailsOnlyExcused setting caller values start := by
  have hiff : ∀ k node outcome, run.result.events[k]? = some (.executed node outcome) →
      ∀ fault, outcome = .failure fault
        ↔ IsExcused caller setting.timeout
          (setting.afterAll ⟨values, start⟩ (run.result.events.take k)) node fault := by
    intro k node outcome hevent fault
    rw [hr.outcome_eq hevent]
    exact limit_eq_failure_iff hc ht (hn node outcome (List.mem_of_getElem? hevent))
  refine ⟨hiff, ?_, ?_⟩
  · intro node fault hevent
    obtain ⟨k, hk⟩ := List.mem_iff_getElem?.1 hevent
    exact ((hiff k node _ hk fault).1 rfl).befalls
  · intro node outcome hevent hrequests hcondition
    obtain ⟨k, hk⟩ := List.mem_iff_getElem?.1 hevent
    cases outcome with
    | success effect => exact ⟨effect, rfl⟩
    | failure fault =>
      exact absurd ((hiff k node _ hk fault).1 rfl) (not_isExcused hrequests hcondition)

theorem failsOnlyExcused_of_nil {values : Context} {start : σ} {run : Run σ}
    (h : run.result.events = []) : run.FailsOnlyExcused setting caller values start := by
  refine ⟨?_, ?_, ?_⟩
  · intro k node outcome hevent
    simp [h] at hevent
  · intro node fault hevent
    simp [h] at hevent
  · intro node outcome hevent
    simp [h] at hevent

end Run

namespace Graph

variable {σ : Type} {graph : Graph}

/-- The nodes that a run executes are nodes of the graph. -/
theorem mem_nodes_of_executed {options : RunOptions} {values : Context}
    {caller? : Option (Caller σ)} {event : Option FormEvent} {caller : σ} {node : Node}
    {outcome : Outcome}
    (h : .executed node outcome ∈ (graph.run options values caller? event caller).result.events) :
    node ∈ graph.nodes :=
  (node?_eq_some_iff.1 (named_of_mem_events h).symm).1

/-- In a valid graph nothing is left open. -/
theorem isConfigured_of_isValid (hv : graph.isValid = true) {node : Node}
    (hn : node ∈ graph.nodes) : node.action.IsConfigured := by
  have hne : graph.nodes ≠ [] := List.ne_nil_of_mem hn
  obtain ⟨-, hconfigured, -⟩ := (isValid_iff hne).1 hv
  exact Check.configurationFaults_eq_nil_iff.1 hconfigured node hn

/-- The run of a valid graph fails only excused. -/
theorem failsOnlyExcused_of_isValid (hv : graph.isValid = true) {options : RunOptions}
    (ht : options.timeout.lt (.zero false) = false) (values : Context) (caller : Caller σ)
    (event : Option FormEvent) (start : σ) :
    (graph.run options values (some caller) event start).FailsOnlyExcused
      (options.setting graph (some caller)) caller values start := by
  have hconfigured : ∀ node outcome,
      .executed node outcome
        ∈ (graph.run options values (some caller) event start).result.events →
      node.action.IsConfigured :=
    fun _ _ hevent => isConfigured_of_isValid hv (mem_nodes_of_executed hevent)
  rw [run_eq_ofGraph fun _ => hv] at hconfigured ⊢
  exact (Run.isReplay_ofGraph _ values (fun _ => mem_nodes_of_mem_startNodes)
    start).failsOnlyExcused rfl ht hconfigured

end Graph

variable {σ : Type}

/-- The steps of a valid graph, and of a valid workflow, fail only excused. -/
theorem failsOnlyExcused_run (budget : Int) (timeout : Binary64) (gate : Bool)
    (values : Context) (caller : Caller σ) (event : Option FormEvent) (start : σ) :
    (∀ graph : Graph, graph.isValid = true →
        (graph.run (.ofNumbers budget timeout gate) values (some caller) event
          start).FailsOnlyExcused
            ((RunOptions.ofNumbers budget timeout gate).setting graph (some caller)) caller values
            start)
      ∧ ∀ workflow : Workflow, workflow.isValid = true →
        (workflow.run (.ofNumbers budget timeout gate) values (some caller) event
          start).FailsOnlyExcused
            ((RunOptions.ofNumbers budget timeout gate).setting workflow.toGraph (some caller))
            caller values start := by
  have ht := RunOptions.ofNumbers_timeout_not_lt budget timeout gate
  refine ⟨?_, ?_⟩
  · intro graph hv
    exact Graph.failsOnlyExcused_of_isValid hv ht values caller event start
  · intro workflow hv
    cases he : workflow.enabled with
    | false =>
      rw [Workflow.run_of_disabled he]
      exact Run.failsOnlyExcused_of_nil rfl
    | true =>
      rw [Workflow.run_of_enabled he]
      exact Graph.failsOnlyExcused_of_isValid hv ht values caller event start

/-- A rate is asked for and compared. -/
def Graph.rates : Graph where
  id := "rates"
  nodes :=
    [⟨"visit", "", .trigger (some .pageLoad) none, by decide⟩,
     ⟨"rate", "", .callApi ⟨some "https://a.example/rate", .get, [], none⟩, by decide⟩,
     ⟨"high", "", .condition (some "rate") (some .greaterThan) (some (.int 100)), by decide⟩]
  edges :=
    [⟨"inquire", "visit", .out, "rate", by decide⟩,
     ⟨"compare", "rate", .out, "high", by decide⟩]
  distinct := by decide

theorem Graph.isValid_rates : rates.isValid = true :=
  (isValid_iff (by decide)).2 ⟨by decide, by decide, by cbv⟩

/-- Has the same reply to every request. -/
def Caller.constant : Caller Reply where
  call _ _ reply := (reply, reply)

/-- The run in which the rate is answered by this reply within half a minute. -/
def Graph.ratesRun (reply : Reply) : Run Reply :=
  rates.run (.ofNumbers 100 (.ofNat 30) false) [] (some .constant) none reply

/-- The graph as a workflow. -/
def Workflow.rates : Workflow where
  toGraph := .rates
  name := "Rates"
  enabled := true

/-- A late reply and an error fail the call; a number that is too large fails only the
condition that compares it. -/
theorem failsOnlyExcused_run_rates :
    Graph.rates.isValid = true
      ∧ ((Graph.ratesRun ⟨.ok (.int 7), .ofNat 31⟩).FailsOnlyExcused
          ((RunOptions.ofNumbers 100 (.ofNat 30) false).setting .rates (some .constant))
          .constant [] ⟨.ok (.int 7), .ofNat 31⟩
        ∧ (Graph.ratesRun ⟨.ok (.int 7), .ofNat 31⟩).result.events.map Event.succeeded
          = [true, false])
      ∧ ((Graph.ratesRun ⟨.error (.callFailed "down"), .zero false⟩).FailsOnlyExcused
          ((RunOptions.ofNumbers 100 (.ofNat 30) false).setting .rates (some .constant))
          .constant [] ⟨.error (.callFailed "down"), .zero false⟩
        ∧ (Graph.ratesRun ⟨.error (.callFailed "down"), .zero false⟩).result.events.map
          Event.succeeded = [true, false])
      ∧ ((Graph.ratesRun ⟨.ok (.int (10 ^ 400)), .zero false⟩).FailsOnlyExcused
          ((RunOptions.ofNumbers 100 (.ofNat 30) false).setting .rates (some .constant))
          .constant [] ⟨.ok (.int (10 ^ 400)), .zero false⟩
        ∧ (Graph.ratesRun ⟨.ok (.int (10 ^ 400)), .zero false⟩).result.events.map
          Event.succeeded = [true, true, false])
      ∧ Workflow.rates.isValid = true
        ∧ (Workflow.rates.run (.ofNumbers 0 .nan true) [] (some .constant) none
          ⟨.ok (.int 7), .zero false⟩).FailsOnlyExcused
            ((RunOptions.ofNumbers 0 .nan true).setting Workflow.rates.toGraph (some .constant))
            .constant [] ⟨.ok (.int 7), .zero false⟩ := by
  have hvalid := Graph.isValid_rates
  refine ⟨hvalid, ⟨?_, by decide +kernel⟩, ⟨?_, by decide +kernel⟩, ⟨?_, by decide +kernel⟩,
    hvalid, (failsOnlyExcused_run 0 .nan true [] .constant none _).2 _ hvalid⟩
  · exact (failsOnlyExcused_run 100 (.ofNat 30) false [] .constant none _).1 _ hvalid
  · exact (failsOnlyExcused_run 100 (.ofNat 30) false [] .constant none _).1 _ hvalid
  · exact (failsOnlyExcused_run 100 (.ofNat 30) false [] .constant none _).1 _ hvalid

end FormAutomation
