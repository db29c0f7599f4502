import FormAutomation.Attempt
import FormAutomation.Proofs.Run.Failure

/-!
# Why an execution fails

The execution of a node comes to an end in every context and whatever the caller answers.  The
reasons for which it fails are listed once: a call has no caller, no address or no response, a
redirect has no address, a condition is incomplete or cannot be evaluated.  A node of which no
more than its kind is known always fails, first for what its kind needs from outside, then for
the part of its configuration that is read first.
-/

namespace FormAutomation

variable {σ : Type}

/-! ## What is executed -/

namespace Executable

/-- What is shown as the name of its kind. -/
def kindName : Executable → String
  | .configured node => node.kind.name
  | .bare _ type => type.shown

/-- Whether its kind can be looked up. -/
def isHashable : Executable → Bool
  | .configured _ => true
  | .bare _ type => type.isHashable

/-- The execution in a context. -/
def execute (executable : Executable) (context : Context) (caller? : Option (Caller σ))
    (state : σ) : Execution σ :=
  match executable with
  | .configured node => node.execute context caller? state
  | .bare id type =>
    { outcome := executeUnconfigured id type.shown caller?.isSome, request := none
      delay := .zero false, caller := state }

end Executable

/-! ## Faults -/

/-- Why the call of a node fails. -/
inductive CallFails (id : String) (endpoint : Endpoint) (context : Context)
    (caller? : Option (Caller σ)) (state : σ) : NodeFault → Prop where
  /-- there is nobody to make the request -/
  | noCaller (hc : caller? = none) : CallFails id endpoint context caller? state (.noCaller id)
  /-- there is no address -/
  | noUrl {caller : Caller σ} (hc : caller? = some caller)
      (hr : endpoint.request? context = none) :
      CallFails id endpoint context caller? state (.noRequestUrl id)
  /-- the caller says why the node fails -/
  | told {caller : Caller σ} {request : Request} {message : String} (hc : caller? = some caller)
      (hr : endpoint.request? context = some request)
      (ha : (caller.call request context state).1.response = .error (.nodeFailed message)) :
      CallFails id endpoint context caller? state (.toldByCaller message)
  /-- the call failed -/
  | failed {caller : Caller σ} {request : Request} {message : String} (hc : caller? = some caller)
      (hr : endpoint.request? context = some request)
      (ha : (caller.call request context state).1.response = .error (.callFailed message)) :
      CallFails id endpoint context caller? state (.callFailed request message)

/-- Why an execution fails. -/
inductive Executable.Fails (context : Context) (caller? : Option (Caller σ)) (state : σ) :
    Executable → NodeFault → Prop where
  /-- its call fails -/
  | call {node : Node} {endpoint : Endpoint} {fault : NodeFault}
      (he : node.action.endpoint? = some endpoint)
      (hf : CallFails node.id endpoint context caller? state fault) :
      Fails context caller? state (.configured node) fault
  /-- the page to be opened has no address -/
  | noUrl {node : Node} {url : Option String} {newTab : Bool}
      (ha : node.action = .redirect url newTab) (hu : fillIfSaid url context = none) :
      Fails context caller? state (.configured node) (.noRedirectUrl node.id)
  /-- it is not said what is compared, or how -/
  | incomplete {node : Node} {field : Option String} {operator : Option Condition.Operator}
      {expected : Option Scalar} (ha : node.action = .condition field operator expected)
      (hi : field.filter (· ≠ "") = none ∨ operator = none) :
      Fails context caller? state (.configured node) (.incomplete node.id)
  /-- the comparison fails -/
  | comparison {node : Node} {field : String} {operator : Condition.Operator}
      {expected : Option Scalar} {fault : Condition.Fault}
      (ha : node.action = .condition (some field) (some operator) expected) (hne : field ≠ "")
      (hf : Condition.holds operator (context.resolve field)
        ((expected.map Scalar.toValue).getD .null) = .error fault) :
      Fails context caller? state (.configured node) (.condition fault)
  /-- there is no such kind of node -/
  | unknownKind {id : String} {type : Value} (hk : NodeKind.ofName? type.shown = none) :
      Fails context caller? state (.bare id type) (.unknownKind type.shown)
  /-- there is nobody to make the request that nodes of its kind make -/
  | noCaller {id : String} {type : Value} {kind : NodeKind}
      (hk : NodeKind.ofName? type.shown = some kind) (hr : kind.makesRequests = true)
      (hc : caller? = none) : Fails context caller? state (.bare id type) (.noCaller id)
  /-- the part of the configuration that is read first is not there -/
  | unconfigured {id : String} {type : Value} {kind : NodeKind}
      (hk : NodeKind.ofName? type.shown = some kind)
      (hc : kind.makesRequests = true → caller? ≠ none) :
      Fails context caller? state (.bare id type) (.unconfigured kind.firstPart)

section

variable {context : Context} {caller? : Option (Caller σ)} {state : σ} {fault : NodeFault}

theorem executeCall_eq_failure_iff {id : String} {endpoint : Endpoint} {does : Value → Effect} :
    (executeCall id endpoint context caller? state does).outcome = .failure fault
      ↔ CallFails id endpoint context caller? state fault := by
  constructor
  · intro h
    unfold executeCall at h
    rcases caller? with _ | caller
    · obtain rfl := Outcome.failure.inj h
      exact .noCaller rfl
    · rcases hr : endpoint.request? context with _ | request
      · rw [hr] at h
        obtain rfl := Outcome.failure.inj h
        exact .noUrl rfl hr
      · rcases hc : caller.call request context state with ⟨⟨response, delay⟩, caller'⟩
        simp only [hr, hc] at h
        rcases response with (message | message) | response
        · obtain rfl := Outcome.failure.inj h
          exact .told rfl hr (by rw [hc])
        · obtain rfl := Outcome.failure.inj h
          exact .failed rfl hr (by rw [hc])
        · cases h
  · rintro (hc | ⟨hc, hr⟩ | ⟨hc, hr, ha⟩ | ⟨hc, hr, ha⟩)
    · simp only [executeCall, hc]
    · simp only [executeCall, hc, hr]
    · simp only [executeCall, hc, hr, ha]
    · simp only [executeCall, hc, hr, ha]

/-- A node with a request to make makes a call. -/
theorem exists_execute_eq_executeCall {node : Node} {endpoint : Endpoint}
    (he : node.action.endpoint? = some endpoint) (context : Context)
    (caller? : Option (Caller σ)) (state : σ) :
    ∃ does, node.execute context caller? state
      = executeCall node.id endpoint context caller? state does := by
  unfold Node.execute
  cases ha : node.action with
  | callApi endpoint' =>
    rw [ha] at he
    obtain rfl := Option.some.inj he
    exact ⟨_, rfl⟩
  | fetchOptions endpoint' source =>
    rw [ha] at he
    obtain rfl := Option.some.inj he
    exact ⟨_, rfl⟩
  | _ =>
    rw [ha] at he
    cases he

/-- A condition fails because something is missing or because the comparison fails. -/
theorem fails_of_executeCondition {node : Node} {field : Option String}
    {operator : Option Condition.Operator} {expected : Option Scalar}
    (ha : node.action = .condition field operator expected)
    (h : executeCondition node.id field operator expected context = .failure fault) :
    (Executable.configured node).Fails context caller? state fault := by
  rcases hfield : field.filter (· ≠ "") with _ | name
  · simp only [executeCondition, hfield] at h
    obtain rfl := Outcome.failure.inj h
    exact .incomplete ha (.inl hfield)
  · rcases operator with _ | operator
    · simp only [executeCondition, hfield] at h
      obtain rfl := Outcome.failure.inj h
      exact .incomplete ha (.inr rfl)
    · obtain ⟨rfl, hname⟩ := Option.filter_eq_some_iff.1 hfield
      have hne : name ≠ "" := by simpa using hname
      obtain ⟨cause, hcause, rfl⟩ := (Run.executeCondition_eq_failure_iff_holds hne).1 h
      exact .comparison ha hne hcause

/-- A node fails for one of the reasons. -/
theorem fails_of_execute {node : Node}
    (h : (node.execute context caller? state).outcome = .failure fault) :
    (Executable.configured node).Fails context caller? state fault := by
  unfold Node.execute at h
  cases ha : node.action with
  | callApi endpoint =>
    rw [ha] at h
    exact .call (by rw [ha]; rfl) (executeCall_eq_failure_iff.1 h)
  | fetchOptions endpoint source =>
    rw [ha] at h
    exact .call (by rw [ha]; rfl) (executeCall_eq_failure_iff.1 h)
  | condition field operator expected =>
    rw [ha] at h
    exact fails_of_executeCondition ha h
  | redirect url newTab =>
    simp only [ha, executeLocal] at h
    split at h
    · cases h
    · next hurl =>
      obtain rfl := Outcome.failure.inj h
      exact .noUrl ha hurl
  | _ =>
    rw [ha] at h
    cases h

/-- A node of which no more than its kind is known fails, for one of the reasons. -/
theorem fails_of_executeUnconfigured {id : String} {type : Value} {outcome : Outcome}
    (h : executeUnconfigured id type.shown caller?.isSome = outcome) :
    ∃ fault, outcome = .failure fault
      ∧ (Executable.bare id type).Fails context caller? state fault := by
  subst h
  rcases hk : NodeKind.ofName? type.shown with _ | kind
  · exact ⟨_, by simp only [executeUnconfigured, hk], .unknownKind hk⟩
  · refine ⟨kind.bareFault id caller?.isSome, by simp only [executeUnconfigured, hk], ?_⟩
    rw [NodeKind.bareFault]
    split
    · next hneeds =>
      simp only [Bool.and_eq_true, Bool.not_eq_true', Option.isSome_eq_false_iff,
        Option.isNone_iff_eq_none] at hneeds
      exact .noCaller hk hneeds.1 hneeds.2
    · next hneeds =>
      refine .unconfigured hk fun hr hc => hneeds ?_
      simp [hr, hc]

namespace Executable

variable {executable : Executable}

/-- Whenever there is a reason, the execution fails for it. -/
theorem Fails.outcome_eq (h : executable.Fails context caller? state fault) :
    (executable.execute context caller? state).outcome = .failure fault := by
  cases h with
  | @call node endpoint fault he hf =>
    obtain ⟨does, hcall⟩ := exists_execute_eq_executeCall he context caller? state
    rw [execute, hcall]
    exact executeCall_eq_failure_iff.2 hf
  | noUrl ha hu => simp only [execute, Node.execute, ha, executeLocal, hu]
  | @incomplete node field operator expected ha hi =>
    simp only [execute, Node.execute, ha, executeLocal, executeCondition]
    rcases hi with hi | rfl
    · rw [hi]
    · cases field.filter (· ≠ "") <;> rfl
  | comparison ha hne hf =>
    simp only [execute, Node.execute, ha, executeLocal]
    exact (Run.executeCondition_eq_failure_iff_holds hne).2 ⟨_, hf, rfl⟩
  | unknownKind hk => simp only [execute, executeUnconfigured, hk]
  | noCaller hk hr hc => simp [execute, executeUnconfigured, NodeKind.bareFault, hk, hr, hc]
  | @unconfigured id type kind hk hc =>
    have hneeds : (kind.makesRequests && !caller?.isSome) = false := by
      cases hr : kind.makesRequests with
      | false => rfl
      | true =>
        obtain ⟨caller, rfl⟩ := Option.ne_none_iff_exists'.1 (hc hr)
        rfl
    simp only [execute, executeUnconfigured, NodeKind.bareFault, hk, hneeds, Bool.false_eq_true,
      if_false]

/-- Executions fail for these reasons and no others. -/
theorem outcome_eq_failure_iff :
    (executable.execute context caller? state).outcome = .failure fault
      ↔ executable.Fails context caller? state fault := by
  refine ⟨fun h => ?_, Fails.outcome_eq⟩
  cases executable with
  | configured node => exact fails_of_execute h
  | bare id type =>
    obtain ⟨fault', hfault, hfails⟩ := fails_of_executeUnconfigured h
    obtain rfl := Outcome.failure.inj hfault
    exact hfails

end Executable

end

end FormAutomation
