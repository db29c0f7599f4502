import FormAutomation.Proofs.Run.Failure

/-!
# What an event finds and what it starts

Two parts of the program look at triggers.  The finders are asked which workflows of a
form an event concerns, and they go by the first trigger of a workflow alone.  A run that
is told of the event starts at every trigger that waits for it, wherever it stands.

The two agree in one direction.  A valid workflow that is found has a node to start at, so
that running it with the event executes something.  In the other direction they do not: a
trigger that comes after one for another event is waiting for nothing.
-/

namespace FormAutomation

theorem EventKind.name_inj {kind other : EventKind} (h : kind.name = other.name) :
    kind = other := by
  have hname := ofName?_name kind
  rw [h, ofName?_name other] at hname
  exact (Option.some.inj hname).symm

/-- A text is filled in exactly if it is there and says something. -/
theorem filled_eq_some_iff {text? : Option String} {text : String} :
    filled text? = some text ↔ text? = some text ∧ text ≠ "" := by
  rw [filled, Option.filter_eq_some_iff]
  simp

/-! ## Events and triggers -/

namespace FormEvent

/-- An event of a kind, at a field if it is told. -/
def ofKind (kind : EventKind) (field : Option String) : FormEvent :=
  ⟨kind.name, field⟩

/-- An event starts a run at the triggers for its kind; at one for the changes of a field
only if it is the field that changed. -/
theorem startsAt_iff {kind : EventKind} {field : Option String} {node : Node} :
    (ofKind kind field).startsAt node = true
      ↔ ∃ named, node.action = .trigger (some kind) named
        ∧ (kind = .fieldChange → filled named = none ∨ named = field) := by
  have hname : ∀ awaited : Option EventKind,
      (awaited.map EventKind.name == (ofKind kind field).name) = true ↔ awaited = some kind := by
    intro awaited
    rw [beq_iff_eq]
    constructor
    · intro h
      obtain ⟨other, hother, hsame⟩ := Option.map_eq_some_iff.1 h
      rw [hother, EventKind.name_inj hsame]
    · rintro rfl
      rfl
  unfold startsAt
  cases ha : node.action with
  | trigger awaited named =>
    simp only [starts, Bool.and_eq_true, hname]
    constructor
    · rintro ⟨rfl, h⟩
      refine ⟨named, rfl, ?_⟩
      rintro rfl
      simpa [ofKind] using h
    · rintro ⟨other, hsame, h⟩
      obtain ⟨rfl, rfl⟩ := Action.trigger.inj hsame
      refine ⟨rfl, ?_⟩
      by_cases hk : kind = .fieldChange
      · simpa [hk, ofKind] using h hk
      · simp [hk]
  | _ => simp

end FormEvent

namespace Graph

variable {graph : Graph}

theorem mem_triggers {node : Node} :
    node ∈ graph.triggers
      ↔ node ∈ graph.nodes ∧ ∃ event field, node.action = .trigger event field := by
  rw [triggers, ofKind, List.mem_filter, beq_iff_eq]
  refine and_congr_right fun _ => ?_
  unfold Node.kind
  cases node.action <;> simp [Action.kind]

/-- The first trigger waits for this event, or for none in particular. -/
def FirstAwaits (graph : Graph) (event : Option EventKind) : Prop :=
  ∃ first ∈ graph.triggers.head?, ∃ field, first.action = .trigger event field

theorem FirstAwaits.unique {event other : Option EventKind} (h : graph.FirstAwaits event)
    (h' : graph.FirstAwaits other) : other = event := by
  obtain ⟨first, hmem, field, haction⟩ := h
  obtain ⟨first', hmem', field', haction'⟩ := h'
  obtain rfl := Option.mem_unique hmem hmem'
  rw [haction] at haction'
  exact (Action.trigger.inj haction').1.symm

/-- The field is named by a trigger on field changes, or, where no such trigger names
any, a node reads or fills it. -/
def Watches (graph : Graph) (field : String) : Prop :=
  (∃ trigger ∈ graph.triggers, triggerField? trigger = some field)
    ∨ (∀ trigger ∈ graph.triggers, triggerField? trigger = none)
      ∧ ∃ node ∈ graph.nodes, field ∈ readNames node

theorem mem_watchedFields {field : String} :
    field ∈ graph.watchedFields ↔ graph.Watches field := by
  rw [watchedFields]
  split
  · next hnone =>
    have hnamed : ∀ trigger ∈ graph.triggers, triggerField? trigger = none :=
      List.filterMap_eq_nil_iff.1 (List.isEmpty_iff.1 hnone)
    rw [List.mem_eraseDups, List.mem_flatMap]
    constructor
    · intro h
      exact .inr ⟨hnamed, h⟩
    · rintro (⟨trigger, htrigger, hfield⟩ | ⟨-, h⟩)
      · rw [hnamed trigger htrigger] at hfield
        cases hfield
      · exact h
  · next hsome =>
    rw [List.mem_eraseDups, List.mem_filterMap]
    constructor
    · intro h
      exact .inl h
    · rintro (h | ⟨hnone, -⟩)
      · exact h
      · exact absurd (List.isEmpty_iff.2 (List.filterMap_eq_nil_iff.2 hnone)) hsome

/-! ## What a workflow goes by -/

/-- What a workflow is for that does not say it. -/
def impliedEvent (graph : Graph) : Option EventKind :=
  if (graph.ofKind .fetchOptions).isEmpty then none else some .pageLoad

theorem awaitedEvent_of_triggers_eq_nil (h : graph.triggers = []) :
    graph.awaitedEvent = graph.impliedEvent := by
  simp only [awaitedEvent, h, List.head?_nil, Option.map_none, impliedEvent]

/-- A workflow with triggers goes by the first one, if that says what it is for. -/
theorem awaitedEvent_of_first {event : Option EventKind} (h : graph.FirstAwaits event) :
    graph.awaitedEvent = event.or graph.impliedEvent := by
  obtain ⟨first, hfirst, field, haction⟩ := h
  rw [Option.mem_def] at hfirst
  rw [awaitedEvent, hfirst, Option.map_some, haction]
  cases event <;> rfl

/-- A graph has no triggers, or its first one waits for something or for nothing. -/
theorem triggers_eq_nil_or_first (graph : Graph) :
    graph.triggers = [] ∨ ∃ event, graph.FirstAwaits event := by
  rcases htriggers : graph.triggers with _ | ⟨first, rest⟩
  · exact .inl rfl
  · have hmem : first ∈ graph.triggers := by
      rw [htriggers]
      exact List.mem_cons_self
    obtain ⟨-, event, field, haction⟩ := mem_triggers.1 hmem
    refine .inr ⟨event, first, ?_, field, haction⟩
    rw [htriggers]
    rfl

/-- A graph with triggers goes by the event that the first one names, or else by what it
does. -/
theorem awaitedEvent_eq_iff (ht : graph.triggers ≠ []) (awaited : Option EventKind) :
    graph.awaitedEvent = awaited
      ↔ awaited ≠ none ∧ graph.FirstAwaits awaited
        ∨ graph.FirstAwaits none ∧ graph.impliedEvent = awaited := by
  obtain ⟨event, hfirst⟩ := graph.triggers_eq_nil_or_first.resolve_left ht
  have honly : ∀ other, graph.FirstAwaits other ↔ other = event :=
    fun other => ⟨hfirst.unique, fun hother => hother ▸ hfirst⟩
  rw [awaitedEvent_of_first hfirst, honly, honly]
  cases event with
  | some kind => cases awaited <;> simp [eq_comm]
  | none => simp

/-! ## From what is found to where it starts -/

theorem triggerField?_eq_some_iff {node : Node} {field : String} :
    triggerField? node = some field
      ↔ node.action = .trigger (some .fieldChange) (some field) ∧ field ≠ "" := by
  unfold triggerField?
  split
  · next named haction =>
    rw [filled_eq_some_iff, haction]
    simp
  · next hother =>
    refine iff_of_false (by simp) ?_
    rintro ⟨haction, -⟩
    exact hother _ haction

theorem startNodes_ne_nil_of_startsAt {event : FormEvent} {trigger : Node}
    (ht : trigger ∈ graph.triggers) (hs : event.startsAt trigger = true) :
    graph.startNodes (some event) ≠ [] := by
  have hne : ¬ graph.triggers.isEmpty = true := by
    rw [List.isEmpty_iff]
    exact List.ne_nil_of_mem ht
  simp only [startNodes, if_neg hne]
  exact List.ne_nil_of_mem (List.mem_filter.2 ⟨ht, hs⟩)

/-- Without triggers a run starts as it does when nothing happened. -/
theorem startNodes_ne_nil_of_triggers_eq_nil (ht : graph.triggers = []) (hn : graph.nodes ≠ [])
    (event : FormEvent) : graph.startNodes (some event) ≠ [] := by
  have hsame : graph.startNodes (some event) = graph.startNodes none := by
    simp only [startNodes, starts, ht, List.isEmpty_nil, if_true]
  rw [hsame]
  exact startNodes_none_ne_nil hn

/-- In a valid graph the first trigger says what it waits for; if that is a change of a
field, it names the field. -/
theorem exists_kind_of_first (hv : graph.isValid = true) {event : Option EventKind}
    (hf : graph.FirstAwaits event) :
    ∃ kind, event = some kind ∧ ∃ first ∈ graph.triggers, ∃ field,
      first.action = .trigger (some kind) field ∧ (kind = .fieldChange → Says field) := by
  obtain ⟨first, hfirst, field, haction⟩ := hf
  have hmem : first ∈ graph.triggers := List.mem_of_mem_head? hfirst
  have hconfigured := isConfigured_of_isValid hv (mem_triggers.1 hmem).1
  rw [haction] at hconfigured
  obtain ⟨hevent, hfield⟩ := hconfigured
  obtain ⟨kind, rfl⟩ := Option.ne_none_iff_exists'.1 hevent
  refine ⟨kind, rfl, first, hmem, field, haction, ?_⟩
  rintro rfl
  exact hfield rfl

/-- A valid graph that goes by a kind of event starts somewhere on it, if it is not about a
field. -/
theorem startNodes_ne_nil_of_awaitedEvent (hv : graph.isValid = true) {kind : EventKind}
    (ha : graph.awaitedEvent = some kind) (hk : kind ≠ .fieldChange) (field : Option String) :
    graph.startNodes (some (.ofKind kind field)) ≠ [] := by
  rcases graph.triggers_eq_nil_or_first with hnil | ⟨event, hfirst⟩
  · -- it is a node that fills a select field that says what the graph is for
    refine startNodes_ne_nil_of_triggers_eq_nil hnil ?_ _
    rw [awaitedEvent_of_triggers_eq_nil hnil] at ha
    rintro hnodes
    simp [impliedEvent, Graph.ofKind, hnodes] at ha
  · rw [awaitedEvent_of_first hfirst] at ha
    obtain ⟨other, rfl, first, hmem, named, haction, -⟩ := exists_kind_of_first hv hfirst
    obtain rfl : other = kind := Option.some.inj ha
    refine startNodes_ne_nil_of_startsAt hmem (FormEvent.startsAt_iff.2 ⟨named, haction, ?_⟩)
    intro h
    exact absurd h hk

/-- A valid graph that watches a field starts somewhere on its changes. -/
theorem startNodes_ne_nil_of_watches (hv : graph.isValid = true) {field : String}
    (ha : graph.awaitedEvent = some .fieldChange ∨ graph.awaitedEvent = none)
    (hw : graph.Watches field) :
    graph.startNodes (some (.ofKind .fieldChange (some field))) ≠ [] := by
  rcases hw with ⟨trigger, htrigger, hnamed⟩ | ⟨hnone, node, hnode, -⟩
  · obtain ⟨haction, -⟩ := triggerField?_eq_some_iff.1 hnamed
    exact startNodes_ne_nil_of_startsAt htrigger
      (FormEvent.startsAt_iff.2 ⟨some field, haction, fun _ => .inr rfl⟩)
  · rcases graph.triggers_eq_nil_or_first with hnil | ⟨event, hfirst⟩
    · exact startNodes_ne_nil_of_triggers_eq_nil hnil (List.ne_nil_of_mem hnode) _
    · -- the first trigger would have named a field
      obtain ⟨kind, rfl, first, hmem, named, haction, hsays⟩ := exists_kind_of_first hv hfirst
      rw [awaitedEvent_of_first hfirst] at ha
      obtain rfl : kind = .fieldChange := by simpa using ha
      obtain ⟨text, rfl, htext⟩ := hsays rfl
      have hnamed := hnone first hmem
      rw [triggerField?_eq_some_iff.2 ⟨haction, htext⟩] at hnamed
      cases hnamed

/-- A run that has a node to start at executes one. -/
theorem exists_executed_of_startNodes {σ : Type} {options : RunOptions} {event : Option FormEvent}
    (hg : options.gate = true → graph.isValid = true) (hs : graph.startNodes event ≠ [])
    (values : Context) (caller? : Option (Caller σ)) (caller : σ) :
    ∃ node outcome, .executed node outcome
      ∈ (graph.run options values caller? event caller).result.events := by
  obtain ⟨trails, htrails, hevents⟩ := run_trails hg values caller? event caller
  obtain ⟨entry, hentry, hfatal⟩ := htrails.exists_executed options.budget_pos hs
  rw [hevents]
  cases entry with
  | executed node outcome => exact ⟨node, outcome, hentry⟩
  | exhausted node budget => cases hfatal
  | lost id => cases hfatal

end Graph

/-! ## The finders -/

namespace Workflow

variable {workflows : List Workflow} {workflow : Workflow}

/-- What an event finds on a form. -/
structure IsFoundFor (event : FormEvent) (workflows found : List Workflow) : Prop where
  /-- it is in the order of the form -/
  sublist : found.Sublist workflows
  /-- it is enabled -/
  enabled : ∀ workflow ∈ found, workflow.enabled = true
  /-- if it is valid, it waits for the event somewhere -/
  starts : ∀ workflow ∈ found, workflow.isValid = true →
    workflow.toGraph.startNodes (some event) ≠ []
  /-- if it is valid, to run it with the event executes a node of it -/
  executes : ∀ workflow ∈ found, workflow.isValid = true →
    ∀ {σ : Type} (options : RunOptions) (values : Context) (caller? : Option (Caller σ))
      (caller : σ), ∃ node outcome, .executed node outcome
        ∈ (workflow.run options values caller? (some event) caller).result.events

/-- Enabled workflows are found if the valid ones among them wait for the event. -/
theorem isFoundFor_filter {event : FormEvent} (concerns : Workflow → Bool)
    (he : ∀ workflow, concerns workflow = true → workflow.enabled = true)
    (hs : ∀ workflow, concerns workflow = true → workflow.isValid = true →
      workflow.toGraph.startNodes (some event) ≠ []) :
    IsFoundFor event workflows (workflows.filter concerns) where
  sublist := List.filter_sublist
  enabled := by
    intro workflow h
    exact he workflow (List.mem_filter.1 h).2
  starts := by
    intro workflow h
    exact hs workflow (List.mem_filter.1 h).2
  executes := by
    intro workflow h hvalid σ options values caller? caller
    have hconcerns := (List.mem_filter.1 h).2
    rw [run_of_enabled (he workflow hconcerns)]
    exact Graph.exists_executed_of_startNodes (fun _ => hvalid) (hs workflow hconcerns hvalid)
      values caller? caller

theorem mem_awaiting {kind : EventKind} :
    workflow ∈ awaiting kind workflows
      ↔ workflow ∈ workflows ∧ workflow.enabled = true
        ∧ workflow.toGraph.awaitedEvent = some kind := by
  rw [awaiting, List.mem_filter, Bool.and_eq_true, beq_iff_eq]

theorem mem_onFieldChange {field : String} :
    workflow ∈ onFieldChange field workflows
      ↔ workflow ∈ workflows ∧ workflow.enabled = true
        ∧ (workflow.toGraph.awaitedEvent = some .fieldChange
          ∨ workflow.toGraph.awaitedEvent = none)
        ∧ workflow.toGraph.Watches field := by
  rw [onFieldChange, List.mem_filter, Bool.and_eq_true, Bool.and_eq_true, Bool.or_eq_true,
    beq_iff_eq, beq_iff_eq, List.contains_iff_mem, Graph.mem_watchedFields, and_assoc]

theorem isFoundFor_awaiting {kind : EventKind} (hk : kind ≠ .fieldChange)
    (field : Option String) :
    IsFoundFor (.ofKind kind field) workflows (awaiting kind workflows) := by
  refine isFoundFor_filter _ ?_ ?_
  · intro workflow h
    exact (Bool.and_eq_true_iff.1 h).1
  · intro workflow h hvalid
    rw [Bool.and_eq_true, beq_iff_eq] at h
    exact Graph.startNodes_ne_nil_of_awaitedEvent hvalid h.2 hk field

/-- What opening a page, sending the form and changing a field find is there to start:
it is enabled and in order, and a valid one of it executes a node on that event. -/
theorem isFoundFor_finders (workflows : List Workflow) :
    (∀ field, IsFoundFor (.ofKind .pageLoad field) workflows (onPageLoad workflows))
      ∧ (∀ field, IsFoundFor (.ofKind .formSubmit field) workflows (onSubmit workflows))
      ∧ ∀ field, IsFoundFor (.ofKind .fieldChange (some field)) workflows
        (onFieldChange field workflows) := by
  refine ⟨isFoundFor_awaiting (by decide), isFoundFor_awaiting (by decide), fun field => ?_⟩
  refine isFoundFor_filter _ ?_ ?_
  · intro workflow h
    exact (Bool.and_eq_true_iff.1 (Bool.and_eq_true_iff.1 h).1).1
  · intro workflow h hvalid
    rw [Bool.and_eq_true, Bool.and_eq_true, Bool.or_eq_true, beq_iff_eq, beq_iff_eq,
      List.contains_iff_mem, Graph.mem_watchedFields] at h
    exact Graph.startNodes_ne_nil_of_watches hvalid h.1.2 h.2

/-- The greeting is found when a page is opened, and then executes a node. -/
theorem isFoundFor_finders_greeting :
    greeting ∈ onPageLoad [greeting] ∧ greeting.isValid = true
      ∧ ∃ node outcome, .executed node outcome
        ∈ (greeting.run .fourGated [] (none : Option (Caller Unit))
            (some (.ofKind .pageLoad none)) ()).result.events := by
  have hfound : greeting ∈ onPageLoad [greeting] := by decide
  have hvalid := isValid_greeting
  exact ⟨hfound, hvalid,
    ((isFoundFor_finders [greeting]).1 none).executes greeting hfound hvalid .fourGated [] none ()⟩

/-- A workflow watches the field of a trigger for its changes, if the trigger names it. -/
theorem watches_of_startsAt {graph : Graph} {trigger : Node} {field : String}
    (ht : trigger ∈ graph.triggers)
    (hs : (FormEvent.ofKind .fieldChange (some field)).startsAt trigger = true)
    (hnamed : Graph.triggerField? trigger ≠ none) : graph.Watches field := by
  obtain ⟨text, htext⟩ := Option.ne_none_iff_exists'.1 hnamed
  obtain ⟨haction, hsays⟩ := Graph.triggerField?_eq_some_iff.1 htext
  obtain ⟨named, haction', hfield⟩ := FormEvent.startsAt_iff.1 hs
  rw [haction] at haction'
  obtain ⟨-, rfl⟩ := Action.trigger.inj haction'
  rcases hfield rfl with hempty | hsame
  · rw [filled_eq_some_iff.2 ⟨rfl, hsays⟩] at hempty
    cases hempty
  · obtain rfl := Option.some.inj hsame
    exact .inl ⟨trigger, ht, htext⟩

/-- A workflow with a trigger for an event is found exactly if its first trigger is for
that kind of event, or is for none that it names and what the workflow does tells that it
is for the event.  If the event is a change of a field that the trigger does not name, the
workflow has to watch the field as well. -/
theorem found_iff_of_startsAt (hw : workflow ∈ workflows) (he : workflow.enabled = true)
    {trigger : Node} (ht : trigger ∈ workflow.toGraph.triggers) :
    (∀ field, (FormEvent.ofKind .pageLoad field).startsAt trigger = true →
        (workflow ∈ onPageLoad workflows
          ↔ workflow.FirstAwaits (some .pageLoad)
            ∨ workflow.FirstAwaits none ∧ workflow.ofKind .fetchOptions ≠ []))
      ∧ (∀ field, (FormEvent.ofKind .formSubmit field).startsAt trigger = true →
        (workflow ∈ onSubmit workflows ↔ workflow.FirstAwaits (some .formSubmit)))
      ∧ ∀ field, (FormEvent.ofKind .fieldChange (some field)).startsAt trigger = true →
        (workflow ∈ onFieldChange field workflows
          ↔ (workflow.FirstAwaits (some .fieldChange)
              ∨ workflow.FirstAwaits none ∧ workflow.ofKind .fetchOptions = [])
            ∧ (Graph.triggerField? trigger = none → workflow.Watches field)) := by
  have hawaited := Graph.awaitedEvent_eq_iff (List.ne_nil_of_mem ht)
  refine ⟨fun field _ => ?_, fun field _ => ?_, fun field hs => ?_⟩
  · rw [onPageLoad, mem_awaiting, hawaited]
    simp [hw, he, Graph.impliedEvent]
  · rw [onSubmit, mem_awaiting, hawaited]
    simp [hw, he, Graph.impliedEvent]
  · -- a field that the trigger names is watched in any case
    have hwatches : workflow.Watches field
        ↔ (Graph.triggerField? trigger = none → workflow.Watches field) := by
      refine ⟨fun h _ => h, fun h => ?_⟩
      by_cases hnamed : Graph.triggerField? trigger = none
      · exact h hnamed
      · exact watches_of_startsAt ht hs hnamed
    rw [mem_onFieldChange, hawaited, hawaited, ← hwatches]
    simp [hw, he, Graph.impliedEvent]

/-- A name or an address was changed. -/
def contact : Workflow where
  id := "contact"
  name := ""
  enabled := true
  nodes :=
    [⟨"name", "", .trigger (some .fieldChange) (some "name"), by decide⟩,
     ⟨"email", "", .trigger (some .fieldChange) (some "email"), by decide⟩]
  edges := []
  distinct := by decide

/-- A change of the second field that is named finds the workflow. -/
theorem found_contact : contact ∈ onFieldChange "email" [contact] := by
  have hemail : contact.nodes[1] ∈ contact.toGraph.triggers := by decide
  have hlisted : contact ∈ [contact] := List.mem_cons_self
  have hfound := (found_iff_of_startsAt hlisted rfl hemail).2.2 "email" (by decide)
  exact hfound.2 ⟨.inl ⟨contact.nodes[0], rfl, some "name", rfl⟩, fun hnone => by cases hnone⟩

/-- Whatever field is changed, the name is asked for. -/
def inquiry : Workflow where
  id := "inquiry"
  name := ""
  enabled := true
  nodes :=
    [⟨"edited", "", .trigger (some .fieldChange) none, by decide⟩,
     ⟨"question", "", .page (some "name"), by decide⟩]
  edges := [⟨"pose", "edited", .out, "question", by decide⟩]
  distinct := by decide

/-- The greeting is for sending the form too, but only opening the page finds it, and the
inquiry is for every change of a field, but none finds it. -/
theorem not_found_greeting_inquiry :
    greeting.enabled = true ∧ greeting.isValid = true
      ∧ (∃ trigger ∈ greeting.toGraph.triggers,
          (FormEvent.ofKind .formSubmit none).startsAt trigger = true)
      ∧ greeting ∉ onSubmit [greeting]
      ∧ inquiry.enabled = true
      ∧ (∃ trigger ∈ inquiry.toGraph.triggers, ∀ field,
          (FormEvent.ofKind .fieldChange (some field)).startsAt trigger = true)
      ∧ ∀ field, inquiry ∉ onFieldChange field [inquiry] := by
  have hchange : inquiry.nodes[0] ∈ inquiry.toGraph.triggers := by decide
  have hunwatched : inquiry.toGraph.watchedFields = [] := by decide
  refine ⟨rfl, isValid_greeting, by decide, by decide, rfl, ⟨_, hchange, fun field => rfl⟩, ?_⟩
  intro field h
  obtain ⟨-, -, -, hwatches⟩ := mem_onFieldChange.1 h
  rw [← Graph.mem_watchedFields, hunwatched] at hwatches
  exact List.not_mem_nil hwatches

end Workflow

end FormAutomation
