import FormAutomation.Execution

/-!
# What a node does

A node that succeeds does what its action says, and there is one way of doing so for
each kind of node: `Action.Does` lists them, with what they read of the context.  What
is proved about effects later on goes through these eight cases and does not look at
the execution again.
-/

namespace FormAutomation

/-- What a node of an id does with its action in a context when it succeeds. -/
inductive Action.Does (node : String) (context : Context) : Action → Effect → Prop where
  /-- a trigger tells its event -/
  | trigger {event : Option EventKind} {field : Option String} :
      Does node context (.trigger event field)
        { report := reportOf "triggerType" (event.map EventKind.name) }
  /-- a page tells its id -/
  | page {id : Option String} :
      Does node context (.page id) { report := reportOf "pageId" (id.filter (· ≠ "")) }
  /-- the response is told and kept -/
  | callApi {endpoint : Endpoint} (response : Value) :
      Does node context (.callApi endpoint) (callEffect node response)
  /-- the options are told, and the response is kept -/
  | fetchOptions {endpoint : Endpoint} {source : OptionSource} (response : Value) :
      Does node context (.fetchOptions endpoint source) (optionsEffect node source response)
  /-- what is set on the form is set in the context as well -/
  | setData {mapping : List Assignment} :
      Does node context (.setData mapping)
        { report := .value (.object (assignments mapping context))
          fieldUpdates := assignments mapping context
          patch := assignments mapping context }
  /-- the message is told and shown -/
  | showDialog {title message : Option String} {dialog : Dialog}
      (ht : dialog.title = (fillIfSaid title context).getD defaultTitle)
      (hm : dialog.message = (fillIfSaid message context).getD "") :
      Does node context (.showDialog title message)
        { report := .value dialog.toValue, dialog := some dialog }
  /-- the address is told and opened -/
  | redirect {template : Option String} {newTab : Bool} {url : String}
      (hu : fillIfSaid template context = some url) :
      Does node context (.redirect template newTab)
        { report := .value (.object [("url", .text url), ("newTab", .bool newTab)])
          redirect := some { url, newTab } }
  /-- what was compared is told -/
  | condition {field : String} {operator : Condition.Operator} {expected : Option Scalar}
      {result : Bool} (hf : field ≠ "")
      (hr : Condition.holds operator (context.resolve field)
        ((expected.map Scalar.toValue).getD .null) = .ok result) :
      Does node context (.condition (some field) (some operator) expected)
        { report := .comparison field operator (context.read field) expected result
          branch := some result }

variable {σ : Type}

/-- A node that makes a request does something with the response. -/
theorem exists_response_of_executeCall {node : String} {endpoint : Endpoint} {context : Context}
    {caller? : Option (Caller σ)} {state : σ} {does : Value → Effect} {effect : Effect}
    (h : (executeCall node endpoint context caller? state does).outcome = .success effect) :
    ∃ response, effect = does response := by
  unfold executeCall at h
  rcases caller? with _ | caller
  · cases h
  · rcases hr : endpoint.request? context with _ | request
    · rw [hr] at h
      cases h
    · rw [hr] at h
      rcases hc : caller.call request context state with ⟨⟨response, delay⟩, caller'⟩
      simp only [hc] at h
      rcases response with (message | message) | response
      · cases h
      · cases h
      · exact ⟨response, (Outcome.success.inj h).symm⟩

/-- A condition that succeeds has told what it compared. -/
theorem does_of_executeCondition {node : String} {field : Option String}
    {operator : Option Condition.Operator} {expected : Option Scalar} {context : Context}
    {effect : Effect}
    (h : executeCondition node field operator expected context = .success effect) :
    Action.Does node context (.condition field operator expected) effect := by
  unfold executeCondition at h
  split at h
  · next name operator hfield =>
    obtain ⟨rfl, hname⟩ := Option.filter_eq_some_iff.1 hfield
    dsimp only at h
    split at h
    · next result hresult =>
      obtain rfl := Outcome.success.inj h
      exact .condition (by simpa using hname) hresult
    · cases h
  · cases h

/-- A node that succeeds has done what its action says. -/
theorem Node.does_of_execute {node : Node} {context : Context} {caller? : Option (Caller σ)}
    {state : σ} {effect : Effect}
    (h : (node.execute context caller? state).outcome = .success effect) :
    node.action.Does node.id context effect := by
  unfold Node.execute at h
  cases ha : node.action with
  | callApi endpoint =>
    rw [ha] at h
    obtain ⟨response, rfl⟩ := exists_response_of_executeCall h
    exact .callApi response
  | fetchOptions endpoint source =>
    rw [ha] at h
    obtain ⟨response, rfl⟩ := exists_response_of_executeCall h
    exact .fetchOptions response
  | condition field operator expected =>
    rw [ha] at h
    exact does_of_executeCondition h
  | redirect template newTab =>
    simp only [ha, executeLocal] at h
    split at h
    · next url hurl =>
      obtain rfl := Outcome.success.inj h
      exact .redirect hurl
    · cases h
  | trigger event field =>
    simp only [ha, executeLocal] at h
    obtain rfl := Outcome.success.inj h
    exact .trigger
  | page id =>
    simp only [ha, executeLocal] at h
    obtain rfl := Outcome.success.inj h
    exact .page
  | setData mapping =>
    simp only [ha, executeLocal] at h
    obtain rfl := Outcome.success.inj h
    exact .setData
  | showDialog title message =>
    simp only [ha, executeLocal] at h
    obtain rfl := Outcome.success.inj h
    exact .showDialog rfl rfl

end FormAutomation
