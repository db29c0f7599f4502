import FormAutomation.Proofs.Dispatch
import FormAutomation.Proofs.Run.Calls
import FormAutomation.Proofs.Template.Reference

/-!
# What a workflow depends on

A workflow whose triggers name no field is taken to depend on the names that its nodes
read.  This is enough: the requests that its nodes make and the branches that its
conditions take are the same in any two contexts that agree on these names, whatever else
is in them.
-/

namespace FormAutomation

variable {context other : Context}

/-- An execution of a node in one context and one in another end alike, as far as they
tell. -/
structure Outcome.TellsSame (node : Node) (context other : Context) (outcome outcome' : Outcome) :
    Prop where
  /-- both succeed or both fail -/
  status : (Event.executed node outcome).status = (Event.executed node outcome').status
  /-- the branch that is taken is the same -/
  branch : (Event.executed node outcome).branch? = (Event.executed node outcome').branch?
  /-- what is told is the same -/
  data : (Event.executed node outcome).data context = (Event.executed node outcome').data other
  /-- what is said of an error is the same -/
  error : (Event.executed node outcome).error? = (Event.executed node outcome').error?

namespace Graph

/-- The nodes of the graph read two contexts alike. -/
structure ReadsAlike (graph : Graph) (context other : Context) : Prop where
  /-- what makes a request makes the same one -/
  requests : ∀ node ∈ graph.nodes, ∀ endpoint, node.action.endpoint? = some endpoint →
    endpoint.request? context = endpoint.request? other
  /-- and makes one if it has an address to ask -/
  requested : ∀ node ∈ graph.nodes, ∀ endpoint, node.action.endpoint? = some endpoint →
    (filled endpoint.url).isSome = true → (endpoint.request? context).isSome = true
  /-- conditions end alike -/
  conditions : ∀ node ∈ graph.nodes, node.kind = .condition →
    ∀ {σ : Type} (caller? : Option (Caller σ)) (state : σ),
      Outcome.TellsSame node context other (node.execute context caller? state).outcome
        (node.execute other caller? state).outcome

/-- The names that come up where the fields are sought that a graph depends on: those that
its triggers give, or else those that its nodes read or fill. -/
def mentions (graph : Graph) : List String :=
  let named := graph.triggers.filterMap triggerField?
  if named.isEmpty then graph.nodes.flatMap readNames else named

/-- The graph depends on the fields that are found for it. -/
structure DependsOnWatched (graph : Graph) : Prop where
  /-- they are found each once, in the order in which they come up first -/
  listed : ListsOnce graph.mentions graph.watchedFields
  /-- if no trigger names a field, nothing else matters to requests and conditions -/
  covered : (∀ trigger ∈ graph.triggers, triggerField? trigger = none) →
    ∀ context other : Context, Context.AgreeOn graph.watchedFields context other →
      graph.ReadsAlike context other

end Graph

/-! ## Requests -/

theorem fillIfSaid_of_agreeOn {template? : Option String}
    (h : ∀ template, filled template? = some template →
      Context.AgreeOn (Template.references template) context other) :
    fillIfSaid template? context = fillIfSaid template? other := by
  unfold fillIfSaid
  rw [← filled]
  rcases hfilled : filled template? with _ | template
  · rfl
  · rw [Option.map_some, Option.map_some, Template.fill_of_agreeOn (h template hfilled)]

theorem mem_requestReferences {endpoint : Endpoint} {template reference : String}
    (ht : filled endpoint.url = some template ∨ filled endpoint.bodyTemplate = some template)
    (hr : reference ∈ Template.references template) :
    reference ∈ Graph.requestReferences endpoint := by
  rw [Graph.requestReferences, List.mem_flatMap]
  refine ⟨template, List.mem_filterMap.2 ?_, hr⟩
  rcases ht with ht | ht
  · exact ⟨endpoint.url, by simp, ht⟩
  · exact ⟨endpoint.bodyTemplate, by simp, ht⟩

/-- An endpoint makes the same request in two contexts that agree on what its templates
refer to. -/
theorem Endpoint.request?_of_agreeOn {endpoint : Endpoint}
    (h : Context.AgreeOn (Graph.requestReferences endpoint) context other) :
    endpoint.request? context = endpoint.request? other := by
  have hurl : fillIfSaid endpoint.url context = fillIfSaid endpoint.url other :=
    fillIfSaid_of_agreeOn fun _ ht name hn => h name (mem_requestReferences (.inl ht) hn)
  have hbody : fillIfSaid endpoint.bodyTemplate context = fillIfSaid endpoint.bodyTemplate other :=
    fillIfSaid_of_agreeOn fun _ ht name hn => h name (mem_requestReferences (.inr ht) hn)
  rw [Endpoint.request?, Endpoint.request?, hurl, hbody]

/-- What the templates of a request refer to is among the names that its node reads. -/
theorem mem_readNames_of_endpoint? {node : Node} {endpoint : Endpoint} {name : String}
    (h : node.action.endpoint? = some endpoint) (hn : name ∈ Graph.requestReferences endpoint) :
    name ∈ Graph.readNames node := by
  unfold Graph.readNames
  cases ha : node.action with
  | callApi endpoint' =>
    rw [ha] at h
    obtain rfl := Option.some.inj h
    exact hn
  | fetchOptions endpoint' options =>
    rw [ha] at h
    obtain rfl := Option.some.inj h
    exact List.mem_append_right _ hn
  | _ =>
    rw [ha] at h
    cases h

/-! ## Conditions -/

/-- A condition ends alike in two contexts that agree on its field. -/
theorem tellsSame_executeCondition {node : Node} {field : Option String}
    {operator : Option Condition.Operator} {expected : Option Scalar}
    (h : Context.AgreeOn (filled field).toList context other) :
    Outcome.TellsSame node context other
      (executeCondition node.id field operator expected context)
      (executeCondition node.id field operator expected other) := by
  unfold executeCondition
  rw [← filled]
  rcases hfield : filled field with _ | field
  · exact ⟨rfl, rfl, rfl, rfl⟩
  rcases operator with _ | operator
  · exact ⟨rfl, rfl, rfl, rfl⟩
  have hsame : (context.read field).toValue context = (other.read field).toValue other := by
    refine h field ?_
    rw [hfield]
    exact List.mem_cons_self
  dsimp only
  rw [hsame]
  cases Condition.holds operator ((other.read field).toValue other)
      ((expected.map Scalar.toValue).getD .null) with
  | error fault => exact ⟨rfl, rfl, rfl, rfl⟩
  | ok result =>
    refine ⟨rfl, rfl, ?_, rfl⟩
    -- the one may have read an entry where the other read the context as a whole
    simp only [Event.data, Report.toValue, hsame]

/-! ## The fields of a graph -/

namespace Graph

theorem watchedFields_eq (graph : Graph) : graph.watchedFields = graph.mentions.eraseDups := by
  unfold watchedFields mentions
  dsimp only
  split
  · rfl
  · rfl

theorem agreeOn_readNames {graph : Graph}
    (hn : ∀ trigger ∈ graph.triggers, triggerField? trigger = none)
    (h : Context.AgreeOn graph.watchedFields context other) {node : Node}
    (hm : node ∈ graph.nodes) :
    Context.AgreeOn (readNames node) context other :=
  fun name hname => h name (mem_watchedFields.2 (.inr ⟨hn, node, hm, hname⟩))

/-- A graph depends on the fields that are found for it, and on no other names if its
triggers name none. -/
theorem dependsOnWatched (graph : Graph) : graph.DependsOnWatched where
  listed := by
    rw [watchedFields_eq]
    exact listsOnce_eraseDups graph.mentions
  covered := by
    intro hn context other h
    refine ⟨fun node hm endpoint he => ?_, fun node hm endpoint he hurl => ?_,
      fun node hm hk σ caller? state => ?_⟩
    · exact Endpoint.request?_of_agreeOn fun name hname =>
        agreeOn_readNames hn h hm name (mem_readNames_of_endpoint? he hname)
    · simpa [Endpoint.request?, fillIfSaid, filled] using hurl
    · have hnames := agreeOn_readNames hn h hm
      unfold Node.execute
      unfold Node.kind at hk
      unfold readNames at hnames
      cases ha : node.action with
      | condition field operator expected =>
        rw [ha] at hnames
        exact tellsSame_executeCondition hnames
      | _ =>
        rw [ha] at hk
        cases hk

/-- A graph that looks up the cities of a country and asks whether one was chosen. -/
def cities : Graph where
  id := "cities"
  nodes :=
    [⟨"changed", "", .trigger (some .fieldChange) none, by decide⟩,
     ⟨"gather", "", .fetchOptions
        ⟨some "https://a.example/\x7b\x7b country \x7d\x7d", .post, [],
          some "\x7b\x7bcity\x7d\x7d of \x7b\x7bcountry\x7d\x7d"⟩
        ⟨none, "label", "value", some "city"⟩, by decide⟩,
     ⟨"chosen", "", .condition (some "city") (some .isNotEmpty) none, by decide⟩]
  edges :=
    [⟨"begin", "changed", .out, "gather", by decide⟩,
     ⟨"offer", "gather", .out, "chosen", by decide⟩]
  distinct := by decide

/-- It depends on the country and the city. -/
theorem dependsOnWatched_cities :
    cities.watchedFields = ["city", "country"]
      ∧ (∀ trigger ∈ cities.triggers, triggerField? trigger = none)
      ∧ cities.ReadsAlike [("country", .text "AT"), ("city", .text "Graz"), ("name", .text "Ann")]
        [("city", .text "Graz"), ("country", .text "AT"), ("age", .int 7)] := by
  have hwatched : cities.watchedFields = ["city", "country"] := by decide +kernel
  have hnamed : ∀ trigger ∈ cities.triggers, triggerField? trigger = none := by decide +kernel
  refine ⟨hwatched, hnamed, (dependsOnWatched cities).covered hnamed _ _ ?_⟩
  intro name hmem
  rw [hwatched] at hmem
  simp only [List.mem_cons, List.not_mem_nil, or_false] at hmem
  rcases hmem with rfl | rfl
  · rfl
  · rfl

end Graph

end FormAutomation
