import FormAutomation.Proofs.Run.Replay

/-!
# What is shown of a step

A step is shown twice: to those who watch the run right after it was taken, and in the
result when the run is over.  Both show what its node did in the context that it found,
the values of the form with what the steps before have set put over them.

The two agree, with one exception.  A condition on a lone dollar sign reads the context
as a whole, and what it read is not kept apart from the context: the result shows there
the context that the run ended with.  So the result shows the step as it was taken
exactly if the context is the same at the end.
-/

namespace FormAutomation

/-! ## Reading the context as a whole -/

/-- The whole context is what a lone dollar sign finds unless an entry has that name,
and the empty reference likewise. -/
theorem Context.read_eq_whole_iff {context : Context} {reference : String} :
    context.read reference = .whole
      ↔ context.lookup reference = none ∧ (reference = "" ∨ reference = "$") := by
  unfold Context.read
  rcases hl : context.lookup reference with _ | v
  · by_cases h : reference = "" ∨ reference = "$"
    · simp [Path.ofText, h]
    · have hpath : Path.ofText reference ≠ [] := by
        simp [Path.ofText, h, Text.splitOn_ne_nil]
      simp [h]
  · simp

/-- The reference that a condition compares. -/
def Action.reference? : Action → Option String
  | .condition field _ _ => field
  | _ => none

/-- The report tells what a condition read that read the context as a whole. -/
def Report.ReadsWhole : Report → Prop
  | .comparison _ _ .whole _ _ => True
  | _ => False

theorem Report.readsWhole_comparison_iff {field : String} {operator : Condition.Operator}
    {actual : Context.Reading} {expected : Option Scalar} {result : Bool} :
    (comparison field operator actual expected result).ReadsWhole ↔ actual = .whole := by
  rcases actual with v | _ <;> simp [ReadsWhole]

theorem not_readsWhole_reportOf (name : String) (text? : Option String) :
    ¬ (reportOf name text?).ReadsWhole := by
  rcases text? with _ | text <;> exact id

/-- Only what read the context as a whole depends on the context in which it is
shown. -/
theorem Report.toValue_eq_iff {report : Report} {context context' : Context} :
    report.toValue context = report.toValue context' ↔ (report.ReadsWhole → context = context') := by
  unfold Report.toValue Report.ReadsWhole
  rcases report with _ | v | ⟨field, operator, actual, expected, result⟩
  · simp
  · simp
  · rcases actual with v | _ <;> simp [Context.Reading.toValue]

namespace Event

/-- The event is the success of a condition that read the context as a whole. -/
def ReadsWhole (context : Context) : Event → Prop
  | .executed node (.success _) =>
    node.action.reference? = some "$" ∧ context.lookup "$" = none
  | _ => False

instance (context : Context) : DecidablePred (ReadsWhole context)
  | .executed node (.success _) =>
    inferInstanceAs (Decidable (node.action.reference? = some "$" ∧ context.lookup "$" = none))
  | .executed _ (.failure _) => isFalse id
  | .exhausted _ _ => isFalse id
  | .lost _ => isFalse id

section Does

variable {node : Node} {effect : Effect} {context before : Context}

/-- What read the context as a whole says so. -/
theorem readsWhole_iff (hd : node.action.Does node.id before effect) :
    (executed node (.success effect)).ReadsWhole before ↔ effect.report.ReadsWhole := by
  change node.action.reference? = some "$" ∧ _ ↔ _
  generalize node.action = action at hd
  cases hd with
  | @condition field operator expected result hf hr =>
    -- a condition has a reference that says something
    rw [Report.readsWhole_comparison_iff, Context.read_eq_whole_iff, or_iff_right hf,
      Action.reference?, Option.some_inj, and_comm]
    constructor
    · rintro ⟨hnone, rfl⟩
      exact ⟨hnone, rfl⟩
    · rintro ⟨hnone, rfl⟩
      exact ⟨hnone, rfl⟩
  | trigger => simp [Action.reference?, not_readsWhole_reportOf]
  | page => simp [Action.reference?, not_readsWhole_reportOf]
  | _ => simp [Action.reference?, Report.ReadsWhole, callEffect, optionsEffect]

/-- A condition tells the value that its reference had. -/
theorem actual_eq_resolve (hd : node.action.Does node.id before effect) {reference : String}
    (hr : node.action.reference? = some reference) :
    ((executed node (.success effect)).data before).field "actual" = before.resolve reference := by
  unfold data
  generalize node.action = action at hd hr
  cases hd with
  | condition =>
    obtain rfl := Option.some.inj hr
    rfl
  | _ => cases hr

/-- A condition that read the context as a whole tells the one in which it is shown. -/
theorem actual_of_readsWhole (hd : node.action.Does node.id before effect)
    (h : (executed node (.success effect)).ReadsWhole before) (context : Context) :
    ((executed node (.success effect)).data context).field "actual" = .object context := by
  obtain ⟨hr, hnone⟩ := h
  have hread : before.read "$" = .whole := Context.read_eq_whole_iff.2 ⟨hnone, .inr rfl⟩
  unfold data
  generalize node.action = action at hd hr
  cases hd with
  | condition =>
    obtain rfl := Option.some.inj hr
    rw [hread]
    rfl
  | _ => cases hr

end Does

/-! ## Events as they are shown -/

/-- The data of an event is shown under its name. -/
theorem field_data (context : Context) (event : Event) :
    (event.toValue context).field "data" = event.data context := by
  have hbranch : (event.branch?.map fun b =>
      ("branch", Value.text (Port.ofBranch b).name)).toList.lookup "data" = none := by
    rcases event.branch? with _ | branch <;> rfl
  have herror : (event.error?.map fun message =>
      ("error", Value.text message)).toList.lookup "data" = none := by
    rcases event.error? with _ | message <;> rfl
  have hfatal : (if event.isFatal then [("fatal", Value.bool true)] else []).lookup "data"
      = none := by
    rcases event.isFatal with _ | _ <;> rfl
  simp only [toValue, Value.field, List.lookup_append, hbranch, herror, hfatal]
  rcases event.data context <;> simp [List.lookup_cons, Value.isNull]

/-- An event is shown the same in two contexts if its data is. -/
theorem toValue_eq_iff {event : Event} {context context' : Context} :
    event.toValue context = event.toValue context' ↔ event.data context = event.data context' := by
  constructor
  · intro h
    rw [← field_data, ← field_data, h]
  · intro h
    rw [toValue, toValue, h]

/-- A success is shown in another context as it was in the one that it found, unless it
read that one as a whole. -/
theorem toValue_eq_iff_of_does {node : Node} {effect : Effect} {context before : Context}
    (hd : node.action.Does node.id before effect) :
    (executed node (.success effect)).toValue context
        = (executed node (.success effect)).toValue before
      ↔ ((executed node (.success effect)).ReadsWhole before → before = context) := by
  rw [toValue_eq_iff, readsWhole_iff hd, eq_comm]
  exact Report.toValue_eq_iff

end Event

/-! ## Steps -/

/-- How the result shows the event of a number, counted from none. -/
def RunResult.shown (result : RunResult) (k : Nat) : Value :=
  (result.toValue.field "events").item k

theorem RunResult.shown_of_getElem? {result : RunResult} {k : Nat} {event : Event}
    (h : result.events[k]? = some event) : result.shown k = event.toValue result.context := by
  have hevents : result.toValue.field "events"
      = .list (result.events.map (Event.toValue result.context)) := by
    simp [toValue, Value.field, List.lookup_cons]
  rw [shown, hevents, Value.item, List.getElem?_map, h]
  rfl

namespace Run

variable {σ : Type}

/-- The step of a number, counted from none, is shown for what it was; its node found
this moment. -/
structure ShowsStep (setting : Setting σ) (run : Run σ) (before : Moment σ) (k : Nat)
    (node : Node) (outcome : Outcome) : Prop where
  /-- it is what the node did in the context before -/
  executed : outcome = setting.limit node (setting.executionAt before node)
  /-- this is told of it once it was taken, as it is then -/
  told : ∀ name other v, .afterNode name other (k + 1) v ∈ run.notices
    ↔ name = setting.graph.id ∧ other = node
      ∧ v = (Event.executed node outcome).toValue before.context
  /-- the result shows the same, unless the context was read as a whole and changed after
  that -/
  kept : run.result.shown k = (Event.executed node outcome).toValue before.context
    ↔ ((Event.executed node outcome).ReadsWhole before.context →
      before.context = run.result.context)
  /-- a condition tells the value that its reference had -/
  actual : ∀ reference effect,
    node.action.reference? = some reference → outcome = .success effect →
      (((Event.executed node outcome).toValue before.context).field "data").field "actual"
        = before.context.resolve reference
  /-- the result shows instead of a context that was read as a whole the last one -/
  last : (Event.executed node outcome).ReadsWhole before.context →
    ((run.result.shown k).field "data").field "actual" = .object run.result.context

/-- Every step of a run is shown for what it was. -/
structure ShowsSteps (setting : Setting σ) (start : Moment σ) (run : Run σ) : Prop where
  /-- a step finds what the run starts with under what the steps before have set -/
  context : ∀ k, (setting.afterAll start (run.result.events.take k)).context
    = (run.result.events.take k).foldl (fun context event => context.overlay event.patch)
      start.context
  /-- the steps one by one -/
  steps : ∀ k node outcome, run.result.events[k]? = some (.executed node outcome) →
    run.ShowsStep setting (setting.afterAll start (run.result.events.take k)) k node outcome

section

variable {setting : Setting σ} {start : Moment σ} {run : Run σ}

/-- What is told of nodes that were executed is what belongs to the events, each at its
moment. -/
theorem IsReplay.afterNode_mem_notices_iff {opening : Notice}
    (hr : run.IsReplay setting start opening) (hopening : opening.occasion ≠ .afterNode)
    {name : String} {node : Node} {step : Nat} {v : Value} :
    .afterNode name node step v ∈ run.notices
      ↔ ∃ k outcome, run.result.events[k]? = some (.executed node outcome)
        ∧ name = setting.graph.id ∧ step = k + 1
        ∧ v = (Event.executed node outcome).toValue
          (setting.afterAll start (run.result.events.take k)).context := by
  have hne : Notice.afterNode name node step v ≠ opening := by
    rintro rfl
    exact hopening rfl
  -- the notices of the start, of an error and of the end are of other kinds
  rw [hr.notices]
  simp only [List.cons_append, List.mem_cons, hne, List.mem_append, List.mem_flatMap, List.mem_map,
    reduceCtorEq, and_false, exists_false, List.not_mem_nil, or_false, false_or]
  constructor
  · rintro ⟨⟨⟨moment, event⟩, step'⟩, hentry, hnotice⟩
    obtain ⟨k, hevent, rfl, rfl⟩ := Setting.mem_zipIdx_replay.1 hentry
    cases event with
    | executed other outcome =>
      simp only [Setting.noticesAt, List.mem_cons, reduceCtorEq, List.not_mem_nil, or_false,
        false_or, Notice.afterNode.injEq] at hnotice
      obtain ⟨rfl, rfl, rfl, rfl⟩ := hnotice
      exact ⟨k, outcome, hevent, rfl, rfl, rfl⟩
    | exhausted other budget => cases hnotice
    | lost id => cases hnotice
  · rintro ⟨k, outcome, hevent, rfl, rfl, rfl⟩
    refine ⟨((_, _), k + 1), Setting.mem_zipIdx_replay.2 ⟨k, hevent, rfl, rfl⟩, ?_⟩
    simp [Setting.noticesAt]

/-- A run that is what its events make of where it started shows its steps for what they
were. -/
theorem IsReplay.showsSteps {opening : Notice}
    (hr : run.IsReplay setting start opening) (hopening : opening.occasion ≠ .afterNode) :
    run.ShowsSteps setting start := by
  refine ⟨fun _ => Setting.context_afterAll _ _, ?_⟩
  intro k node outcome hevent
  have hexecuted := hr.outcome_eq hevent
  have hdoes : ∀ effect, outcome = .success effect → node.action.Does node.id
      (setting.afterAll start (run.result.events.take k)).context effect := by
    rintro effect rfl
    exact Node.does_of_execute (execution_of_limit hexecuted.symm)
  have hshown := RunResult.shown_of_getElem? hevent
  refine ⟨hexecuted, ?_, ?_, ?_, ?_⟩
  · intro name other v
    rw [hr.afterNode_mem_notices_iff hopening]
    constructor
    · -- the number of the step tells which event it is
      rintro ⟨k', outcome', hevent', rfl, hstep, rfl⟩
      obtain rfl := Nat.succ.inj hstep
      rw [hevent] at hevent'
      obtain ⟨rfl, rfl⟩ := Event.executed.inj (Option.some.inj hevent')
      exact ⟨rfl, rfl, rfl⟩
    · rintro ⟨rfl, rfl, rfl⟩
      exact ⟨k, outcome, hevent, rfl, rfl, rfl⟩
  · rw [hshown]
    rcases outcome with effect | fault
    · exact Event.toValue_eq_iff_of_does (hdoes effect rfl)
    · -- a failure has no data
      exact ⟨fun _ h => h.elim, fun _ => Event.toValue_eq_iff.2 rfl⟩
  · intro reference effect hreference houtcome
    rw [Event.field_data, houtcome]
    exact Event.actual_eq_resolve (hdoes effect houtcome) hreference
  · intro hwhole
    rw [hshown, Event.field_data]
    rcases outcome with effect | fault
    · exact Event.actual_of_readsWhole (hdoes effect rfl) hwhole _
    · exact hwhole.elim

end

/-- A run in which nothing happens has no steps. -/
theorem showsSteps_idle (setting : Setting σ) (start : Moment σ) {result : RunResult}
    (h : result.events = []) (caller : σ) : (idle result caller).ShowsSteps setting start := by
  refine ⟨fun _ => Setting.context_afterAll _ _, ?_⟩
  intro k node outcome hk
  change result.events[k]? = _ at hk
  rw [h] at hk
  cases hk

end Run

variable {σ : Type}

/-- Every run, whatever the graph, the values, the answers and the event are, shows its
steps for what they were. -/
theorem showsSteps_run (options : RunOptions) (values : Context) (caller? : Option (Caller σ))
    (event : Option FormEvent) (caller : σ) :
    (∀ graph : Graph, (graph.run options values caller? event caller).ShowsSteps
        (options.setting graph caller?) ⟨values, caller⟩)
      ∧ ∀ workflow : Workflow, (workflow.run options values caller? event caller).ShowsSteps
        (options.setting workflow.toGraph caller?) ⟨values, caller⟩ := by
  constructor
  · intro graph
    refine graph.run_cases options values caller? event caller
      (fun _ => Run.showsSteps_idle _ _ rfl caller) ?_
    exact (Run.isReplay_ofGraph _ values (fun _ => Graph.mem_nodes_of_mem_startNodes)
      caller).showsSteps nofun
  · intro workflow
    refine workflow.run_cases options values caller? event caller
      (fun _ => Run.showsSteps_idle _ _ rfl caller) ?_
    exact (Run.isReplay_ofGraph _ values (fun _ => Graph.mem_nodes_of_mem_startNodes)
      caller).showsSteps nofun

/-- What was entered is looked at as a whole, and then the name is copied. -/
def Graph.duplicate : Graph where
  id := "duplicate"
  nodes :=
    [⟨"look", "", .condition (some "$") (some .isNotEmpty) none, by decide⟩,
     ⟨"copy", "", .setData [⟨"name", "copy"⟩], by decide⟩]
  edges := [⟨"go", "look", .whenTrue, "copy", by decide⟩]
  distinct := by decide

/-- A hundred steps, whatever the graph is. -/
def RunOptions.hundredSteps : RunOptions :=
  ⟨100, .ofNat 30, false, by decide⟩

/-- The copy is shown in what was looked at before it was made. -/
theorem shown_duplicate_ne_told :
    let run := Graph.duplicate.run .hundredSteps [("name", .text "Ann")]
      (none : Option (Caller Unit)) none ()
    ∃ node told, .afterNode "duplicate" node 1 told ∈ run.notices
      ∧ (told.field "data").field "actual" = .object [("name", .text "Ann")]
      ∧ ((run.result.shown 0).field "data").field "actual" ≠ .object [("name", .text "Ann")] := by
  intro run
  have hshows : run.ShowsSteps (RunOptions.hundredSteps.setting Graph.duplicate none)
      ⟨[("name", .text "Ann")], ()⟩ :=
    (Run.isReplay_ofGraph _ _ (fun _ => Graph.mem_nodes_of_mem_startNodes) ()).showsSteps nofun
  have hfirst : run.result.events[0]?.map
      (fun event => decide (event.ReadsWhole [("name", .text "Ann")])) = some true := by
    decide +kernel
  have hlast : run.result.context.names = ["name", "copy"] := by decide +kernel
  obtain ⟨event, hevent, hdecide⟩ := Option.map_eq_some_iff.1 hfirst
  have hwhole := of_decide_eq_true hdecide
  rcases event with ⟨node, effect | fault⟩ | ⟨node, budget⟩ | id
  · have hstep := hshows.steps 0 node (.success effect) hevent
    refine ⟨node, _, (hstep.told _ _ _).2 ⟨rfl, rfl, rfl⟩, ?_, ?_⟩
    · rw [hstep.actual _ _ hwhole.1 rfl]
      rfl
    · rw [hstep.last hwhole]
      intro hsame
      rw [Value.object.inj hsame] at hlast
      exact absurd hlast (by decide)
  -- nothing else has read anything
  · exact hwhole.elim
  · exact hwhole.elim
  · exact hwhole.elim

end FormAutomation
