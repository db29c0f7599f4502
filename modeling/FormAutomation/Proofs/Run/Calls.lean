import FormAutomation.Proofs.Check.Validity
import FormAutomation.Proofs.Run.Replay
import FormAutomation.Proofs.Run.Shape

/-!
# What a run asks its caller

A run asks its caller once for each step whose node has an address to ask, in the order
of the steps, and for nothing else.  It does not matter what becomes of a step: a call
that fails or takes too long was made all the same, and since an error ends the run no
call comes after it.

What is asked for is filled in the context that the step finds: the values of the form
with what the steps before have set put over them.
-/

namespace FormAutomation

/-! ## What a node asks for -/

/-- The request of an action, its address and body still templates. -/
def Action.endpoint? : Action → Option Endpoint
  | .callApi endpoint => some endpoint
  | .fetchOptions endpoint _ => some endpoint
  | _ => none

/-- The request is that of an endpoint in a context. -/
structure Endpoint.Requests (endpoint : Endpoint) (context : Context) (request : Request) :
    Prop where
  /-- the address is there, and filled -/
  url : ∃ template, endpoint.url = some template ∧ template ≠ ""
    ∧ request.url = Template.fill template context
  /-- the method is that of the endpoint -/
  method : request.method = endpoint.method.name
  /-- and so are the headers -/
  headers : request.headers = endpoint.headers
  /-- the body is there unless the method is `GET` or the template says nothing -/
  body : ∀ body, request.body = some body ↔ endpoint.method ≠ .get
    ∧ ∃ template, endpoint.bodyTemplate = some template ∧ template ≠ ""
      ∧ body = Template.fill template context

theorem fillIfSaid_eq_some_iff {template? : Option String} {context : Context} {text : String} :
    fillIfSaid template? context = some text
      ↔ ∃ template, template? = some template ∧ template ≠ ""
        ∧ text = Template.fill template context := by
  unfold fillIfSaid
  constructor
  · intro h
    obtain ⟨template, htemplate, rfl⟩ := Option.map_eq_some_iff.1 h
    obtain ⟨rfl, hne⟩ := Option.filter_eq_some_iff.1 htemplate
    exact ⟨template, rfl, by simpa using hne, rfl⟩
  · rintro ⟨template, rfl, hne, rfl⟩
    simp [hne]

theorem Endpoint.requests_of_request? {endpoint : Endpoint} {context : Context}
    {request : Request} (h : endpoint.request? context = some request) :
    endpoint.Requests context request := by
  obtain ⟨url, hurl, rfl⟩ := Option.map_eq_some_iff.1 h
  refine ⟨fillIfSaid_eq_some_iff.1 hurl, rfl, rfl, fun body => ?_⟩
  by_cases hget : endpoint.method = .get
  · simp [hget]
  · simp [hget, fillIfSaid_eq_some_iff]

/-! ## Steps -/

/-- A step that was taken. -/
structure Visit where
  /-- the context that it found -/
  context : Context
  /-- the node that was executed -/
  node : Node

namespace Visit

/-- Whether the node of the step has an address to ask. -/
def asks (visit : Visit) : Bool :=
  (visit.node.action.endpoint?.bind fun endpoint => filled endpoint.url).isSome

/-- The request is the one that the node makes in the context that the step found. -/
def Makes (visit : Visit) (request : Request) : Prop :=
  ∃ endpoint, visit.node.action.endpoint? = some endpoint
    ∧ endpoint.Requests visit.context request

/-- The request of the step. -/
def request? (visit : Visit) : Option Request :=
  visit.node.action.endpoint?.bind (·.request? visit.context)

variable {visit : Visit}

theorem makes_of_request? {request : Request} (h : visit.request? = some request) :
    visit.Makes request := by
  obtain ⟨endpoint, hendpoint, hrequest⟩ := Option.bind_eq_some_iff.1 h
  exact ⟨endpoint, hendpoint, Endpoint.requests_of_request? hrequest⟩

/-- A step has a request exactly if there is an address to ask. -/
theorem isSome_request? : visit.request?.isSome = visit.asks := by
  unfold request? asks
  rcases visit.node.action.endpoint? with _ | endpoint
  · rfl
  · simp [Endpoint.request?, fillIfSaid, filled]

end Visit

/-- The steps among events, each with what it finds if the first one finds this. -/
def visits : Context → List Event → List Visit
  | _, [] => []
  | context, .executed node outcome :: rest =>
    ⟨context, node⟩ :: visits (context.overlay (Event.executed node outcome).patch) rest
  | context, _ :: rest => visits context rest

namespace Run

variable {σ : Type}

/-- These calls, and no others, were made in a run that started with these values and
with the caller in this state. -/
structure IsCalled (caller : Caller σ) (values : Context) (start : σ) (run : Run σ)
    (calls : List (Visit × Request)) : Prop where
  /-- one for each step that has an address to ask, in their order -/
  asking : calls.map Prod.fst = (visits values run.result.events).filter Visit.asks
  /-- with these requests -/
  requests : calls.map Prod.snd = run.requests
  /-- which are those of their steps -/
  made : ∀ call ∈ calls, call.1.Makes call.2
  /-- the caller has answered them one after the other -/
  answered : run.caller = calls.foldl
    (fun state call => (caller.call call.2 call.1.context state).2) start
  /-- nothing comes after an error -/
  halts : ∀ before event after, run.result.events = before ++ event :: after →
    event.succeeded = false → after = []

/-! ## What a step asks for -/

variable {setting : Setting σ} {caller : Caller σ} {moment : Moment σ} {node : Node}

/-- The state of a caller after it was asked, if there was something to ask. -/
def askedOnce (caller : Caller σ) (context : Context) (state : σ) : Option Request → σ
  | some request => (caller.call request context state).2
  | none => state

/-- A call makes the request of its endpoint, if there is one, and makes it once. -/
theorem executeCall_asks (id : String) (endpoint : Endpoint) (context : Context) (state : σ)
    (does : Value → Effect) :
    (executeCall id endpoint context (some caller) state does).request
        = endpoint.request? context
      ∧ (executeCall id endpoint context (some caller) state does).caller
        = askedOnce caller context state (endpoint.request? context) := by
  unfold executeCall
  rcases endpoint.request? context with _ | request
  · exact ⟨rfl, rfl⟩
  · exact ⟨rfl, rfl⟩

/-- A node makes the request of its endpoint, if it has one, and makes it once. -/
theorem execute_asks (node : Node) (context : Context) (state : σ) :
    (node.execute context (some caller) state).request = (Visit.mk context node).request?
      ∧ (node.execute context (some caller) state).caller
        = askedOnce caller context state (Visit.mk context node).request? := by
  unfold Node.execute Visit.request?
  dsimp only
  cases node.action with
  | callApi endpoint => exact executeCall_asks node.id endpoint context state _
  | fetchOptions endpoint source => exact executeCall_asks node.id endpoint context state _
  | _ => exact ⟨rfl, rfl⟩

theorem requestAt_executed (hc : setting.caller? = some caller) (outcome : Outcome) :
    setting.requestAt moment (.executed node outcome)
      = (Visit.mk moment.context node).request? := by
  rw [← (execute_asks node moment.context moment.caller).1, ← hc]
  rfl

theorem caller_after_executed (hc : setting.caller? = some caller) (outcome : Outcome) :
    (setting.after moment (.executed node outcome)).caller
      = askedOnce caller moment.context moment.caller
        (Visit.mk moment.context node).request? := by
  rw [← (execute_asks node moment.context moment.caller).2, ← hc]
  rfl

/-! ## What the steps ask for -/

/-- The calls of steps. -/
def callsOf (visits : List Visit) : List (Visit × Request) :=
  visits.filterMap fun visit => visit.request?.map (visit, ·)

theorem callsOf_cons (visit : Visit) (rest : List Visit) :
    callsOf (visit :: rest)
      = (visit.request?.map (visit, ·)).toList ++ callsOf rest := by
  unfold callsOf
  rcases h : visit.request? with _ | request <;> simp [h]

theorem fst_callsOf (visits : List Visit) :
    (callsOf visits).map Prod.fst = visits.filter Visit.asks := by
  induction visits with
  | nil => rfl
  | cons visit rest ih =>
    rw [callsOf_cons, List.map_append, ih, List.filter_cons, ← Visit.isSome_request?]
    rcases visit.request? with _ | request <;> rfl

theorem makes_of_mem_callsOf {visits : List Visit} {call : Visit × Request}
    (h : call ∈ callsOf visits) : call.1.Makes call.2 := by
  obtain ⟨visit, -, hcall⟩ := List.mem_filterMap.1 h
  obtain ⟨request, hrequest, rfl⟩ := Option.map_eq_some_iff.1 hcall
  exact Visit.makes_of_request? hrequest

/-- The requests that belong to the events are those of their steps. -/
theorem snd_callsOf (hc : setting.caller? = some caller) (start : Moment σ)
    (events : List Event) :
    (callsOf (visits start.context events)).map Prod.snd
      = (setting.replay start events).flatMap
        fun entry => (setting.requestAt entry.1 entry.2).toList := by
  induction events generalizing start with
  | nil => rfl
  | cons event rest ih =>
    rw [Setting.replay, List.flatMap_cons, ← ih]
    cases event with
    | executed node outcome =>
      rw [visits, callsOf_cons, List.map_append, requestAt_executed hc]
      rcases (Visit.mk start.context node).request? with _ | request <;> rfl
    | exhausted node budget => rfl
    | lost id => rfl

/-- Between two moments the caller has answered the calls of the steps. -/
theorem caller_afterAll (hc : setting.caller? = some caller) (start : Moment σ)
    (events : List Event) :
    (setting.afterAll start events).caller
      = (callsOf (visits start.context events)).foldl
        (fun state call => (caller.call call.2 call.1.context state).2) start.caller := by
  induction events generalizing start with
  | nil => rfl
  | cons event rest ih =>
    change (setting.afterAll (setting.after start event) rest).caller = _
    rw [ih]
    cases event with
    | executed node outcome =>
      rw [visits, callsOf_cons, List.foldl_append, caller_after_executed hc]
      rcases (Visit.mk start.context node).request? with _ | request <;> rfl
    | exhausted node budget => rfl
    | lost id => rfl

/-! ## Runs -/

/-- A run that is what its events make of where it started makes the calls of its
steps. -/
theorem IsReplay.isCalled {run : Run σ} {start : Moment σ} {opening : Notice}
    (hr : run.IsReplay setting start opening) (hc : setting.caller? = some caller)
    (hh : ∀ before event after, run.result.events = before ++ event :: after →
      event.succeeded = false → after = []) :
    run.IsCalled caller start.context start.caller
      (callsOf (visits start.context run.result.events)) := by
  have hend : run.caller = (setting.afterAll start run.result.events).caller :=
    congrArg Moment.caller hr.moment
  refine ⟨fst_callsOf _, ?_, fun _ => makes_of_mem_callsOf, ?_, hh⟩
  · rw [hr.requests, snd_callsOf hc]
  · rw [hend, caller_afterAll hc]

/-- A run in which nothing happens makes no calls. -/
theorem isCalled_idle {result : RunResult} (h : result.events = []) (caller : Caller σ)
    (values : Context) (start : σ) : (idle result start).IsCalled caller values start [] := by
  refine ⟨?_, rfl, fun _ h => absurd h List.not_mem_nil, rfl, ?_⟩
  · change _ = (visits values result.events).filter _
    rw [h]
    rfl
  · intro before event after hevents
    change result.events = _ at hevents
    rw [h] at hevents
    simp at hevents

end Run

variable {σ : Type}

/-- Every run with a caller asks it once for each step that has an address to ask, and
for nothing else; a run that the gate refuses, and one of a workflow that is not enabled,
asks for nothing at all. -/
theorem isCalled_run (options : RunOptions) (values : Context) (caller : Caller σ)
    (event : Option FormEvent) (start : σ) :
    (∀ graph : Graph, ∃ calls,
        (graph.run options values (some caller) event start).IsCalled caller values start calls)
      ∧ (∀ workflow : Workflow, ∃ calls,
        (workflow.run options values (some caller) event start).IsCalled caller values start
          calls)
      ∧ (∀ graph : Graph, options.gate = true → graph.isValid = false →
        (graph.run options values (some caller) event start).IsCalled caller values start [])
      ∧ ∀ workflow : Workflow,
        workflow.enabled = false ∨ options.gate = true ∧ workflow.isValid = false →
        (workflow.run options values (some caller) event start).IsCalled caller values start
          [] := by
  have hgraph : ∀ graph : Graph, ∃ calls,
      (graph.run options values (some caller) event start).IsCalled caller values start
        calls := by
    intro graph
    have hhalts := (Graph.isShaped_of_nil_or_trails
      (graph.run_nil_or_trails options values (some caller) event start)).halts
    by_cases hgate : options.gate = true ∧ graph.isValid = false
    · rw [Graph.run_eq_idle hgate.1 hgate.2]
      exact ⟨[], Run.isCalled_idle rfl caller values start⟩
    · rw [Graph.run_eq_ofGraph (by simpa using hgate)] at hhalts ⊢
      exact ⟨_, (Run.isReplay_ofGraph _ values (fun _ => Graph.mem_nodes_of_mem_startNodes)
        start).isCalled rfl hhalts⟩
  have hrefused : ∀ graph : Graph, options.gate = true → graph.isValid = false →
      (graph.run options values (some caller) event start).IsCalled caller values start [] := by
    intro graph hgate hvalid
    rw [Graph.run_eq_idle hgate hvalid]
    exact Run.isCalled_idle rfl caller values start
  have hdisabled : ∀ workflow : Workflow, workflow.enabled = false →
      (workflow.run options values (some caller) event start).IsCalled caller values start
        [] := by
    intro workflow h
    rw [Workflow.run_of_disabled h]
    exact Run.isCalled_idle rfl caller values start
  refine ⟨hgraph, ?_, hrefused, ?_⟩
  · intro workflow
    cases h : workflow.enabled with
    | false => exact ⟨[], hdisabled workflow h⟩
    | true =>
      rw [Workflow.run_of_enabled h]
      exact hgraph workflow.toGraph
  · rintro workflow (h | ⟨hgate, hvalid⟩)
    · exact hdisabled workflow h
    · cases h : workflow.enabled with
      | false => exact hdisabled workflow h
      | true =>
        rw [Workflow.run_of_enabled h]
        exact hrefused workflow.toGraph hgate hvalid

/-- A number is looked up under a name and then stored; where to go on from there is
missing. -/
def Graph.lookup : Graph where
  id := "lookup"
  nodes :=
    [⟨"find", "", .callApi ⟨some "https://a.example/\x7b\x7bname\x7d\x7d", .get, [], some "-"⟩,
      by decide⟩,
     ⟨"store", "", .callApi ⟨some "https://b.example/", .post, [("Accept", "text/plain")],
      some "\x7b\x7bfind\x7d\x7d"⟩, by decide⟩]
  edges :=
    [⟨"keep", "find", .out, "store", by decide⟩, ⟨"lose", "store", .out, "ghost", by decide⟩]
  distinct := by decide

theorem Graph.isValid_lookup : lookup.isValid = false := by
  rw [Bool.eq_false_iff]
  intro hv
  have hends := mem_ids_of_isValid hv (List.cons_ne_nil _ _)
    (List.mem_cons_of_mem _ List.mem_cons_self)
  exact absurd hends.2 (by decide)

/-- Two steps, with or without the gate. -/
def RunOptions.twoSteps (gate : Bool) : RunOptions :=
  ⟨2, .ofNat 30, gate, by decide⟩

/-- Answers with a number, and keeps what it was asked for. -/
def Caller.logging : Caller (List Request) where
  call request _ log := (⟨.ok (.int 7), .zero false⟩, log ++ [request])

/-- The second request is filled with the response of the first; behind the gate, and in
a workflow that is not enabled, there is none. -/
theorem isCalled_run_lookup :
    (∃ calls, (Graph.lookup.run (.twoSteps false) [("name", .text "Ann")] (some .logging) none
        []).IsCalled .logging [("name", .text "Ann")] [] calls
      ∧ calls.map Prod.snd = [⟨"https://a.example/Ann", "GET", [], none⟩,
        ⟨"https://b.example/", "POST", [("Accept", "text/plain")], some "7"⟩])
      ∧ (Graph.lookup.isValid = false
        ∧ (Graph.lookup.run (.twoSteps true) [] (some .logging) none []).IsCalled .logging []
          [] [])
      ∧ (Workflow.mk Graph.lookup "Lookup" false).enabled = false
        ∧ ((Workflow.mk Graph.lookup "Lookup" false).run (.twoSteps true) [] (some .logging)
          none []).IsCalled .logging [] [] [] := by
  obtain ⟨hgraph, -⟩ := isCalled_run (.twoSteps false) [("name", .text "Ann")] .logging none []
  obtain ⟨-, -, hrefused, hidle⟩ := isCalled_run (.twoSteps true) [] .logging none []
  refine ⟨?_, ⟨Graph.isValid_lookup, hrefused _ rfl Graph.isValid_lookup⟩, rfl,
    hidle _ (.inl rfl)⟩
  obtain ⟨calls, hcalls⟩ := hgraph Graph.lookup
  refine ⟨calls, hcalls, ?_⟩
  rw [hcalls.requests]
  decide +kernel

end FormAutomation
