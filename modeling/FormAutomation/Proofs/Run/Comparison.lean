import FormAutomation.Proofs.Run.Failure

/-!
# Comparisons that fail in a run

A condition that cannot be evaluated ends a run as any other failure of a node does.  The step
is recorded with what went wrong, as an error of that node that is not fatal, and it is the last
one.  The fault is the one that the evaluation has at the moment of the step; as the operators of
nodes are supported, it is always a number that is out of range.
-/

namespace FormAutomation

/-- The event tells that its node failed, not fatally, for a fault of its condition. -/
structure Event.TellsFault (event : Event) (node : Node) (fault : Condition.Fault) : Prop where
  /-- it is an event of the node -/
  nodeId : event.nodeId = node.id
  /-- of its kind -/
  kind : event.kind? = some .condition
  /-- an error -/
  status : event.status = "error"
  /-- that is not fatal -/
  isFatal : event.isFatal = false
  /-- with what is said of the fault -/
  error : event.error? = some (NodeFault.condition fault).message

namespace Run

variable {σ : Type}

/-- The evaluation of a condition at a moment: of what its field refers to then, with what it
is compared with. -/
def evaluationAt (moment : Moment σ) (field : String) (operator : Condition.Operator)
    (expected : Option Scalar) : Except Condition.Fault Bool :=
  Condition.evaluate operator.name (moment.context.resolve field)
    ((expected.map Scalar.toValue).getD .null)

/-- The steps of the conditions of a run fail as their evaluations do. -/
structure TellsFaults (setting : Setting σ) (start : Moment σ) (run : Run σ) : Prop where
  /-- the step of a condition fails exactly if its evaluation does, with the same fault -/
  failure_iff : ∀ k node outcome, run.result.events[k]? = some (.executed node outcome) →
    ∀ field operator expected, node.action = .condition (some field) (some operator) expected →
      field ≠ "" → ∀ fault,
        evaluationAt (setting.afterAll start (run.result.events.take k)) field operator expected
            = .error fault
          ↔ outcome = .failure (.condition fault)
  /-- its event then tells so, no other one follows, and a number was out of range -/
  told : ∀ k node outcome, run.result.events[k]? = some (.executed node outcome) →
    ∀ field operator expected, node.action = .condition (some field) (some operator) expected →
      field ≠ "" → ∀ fault,
        evaluationAt (setting.afterAll start (run.result.events.take k)) field operator expected
            = .error fault →
          (Event.executed node outcome).TellsFault node fault
            ∧ run.result.events.length = k + 1 ∧ fault = .overflow

section

variable {setting : Setting σ} {moment start : Moment σ} {node : Node} {field : String}
  {operator : Condition.Operator} {expected : Option Scalar} {fault : Condition.Fault}

/-- The operators of nodes are supported, so only the range of a number can be at fault. -/
theorem eq_overflow_of_evaluationAt
    (h : evaluationAt moment field operator expected = .error fault) : fault = .overflow := by
  rcases fault with name | _
  · obtain ⟨hname, -⟩ := ((Condition.failsInTwoCases _ _ _).unsupported_iff name).1 h
    exact absurd operator.name_mem_supportedNames hname
  · rfl

/-- A run that replays steps, of which an error is the last one, tells the faults of its
conditions. -/
theorem IsReplay.tellsFaults {opening : Notice} {run : Run σ}
    (hr : run.IsReplay setting start opening) (ht : setting.timeout.lt (.zero false) = false)
    (hh : ∀ before event after, run.result.events = before ++ event :: after →
      event.succeeded = false → after = []) : run.TellsFaults setting start := by
  have hiff : ∀ k node outcome, run.result.events[k]? = some (.executed node outcome) →
      ∀ field operator expected, node.action = .condition (some field) (some operator) expected →
        field ≠ "" → ∀ fault,
          evaluationAt (setting.afterAll start (run.result.events.take k)) field operator expected
              = .error fault
            ↔ outcome = .failure (.condition fault) := by
    intro k node outcome hevent field operator expected ha hne fault
    have hlocal : node.kind.makesRequests = false := by
      rw [Node.kind, ha]
      rfl
    rw [hr.outcome_eq hevent, limit_executionAt_of_local ht hlocal, ha, evaluationAt,
      Condition.evaluate_name]
    change _ ↔ executeCondition node.id (some field) (some operator) expected _ = _
    rw [executeCondition_eq_failure_iff_holds hne]
    simp
  refine ⟨hiff, ?_⟩
  intro k node outcome hevent field operator expected ha hne fault hfault
  obtain rfl := (hiff k node outcome hevent field operator expected ha hne fault).1 hfault
  refine ⟨⟨rfl, ?_, rfl, rfl, rfl⟩, ?_, eq_overflow_of_evaluationAt hfault⟩
  · rw [Event.kind?, Node.kind, ha]
    rfl
  · obtain ⟨hlt, hget⟩ := List.getElem?_eq_some_iff.1 hevent
    have hsplit : run.result.events = run.result.events.take k
        ++ .executed node (.failure (.condition fault)) :: run.result.events.drop (k + 1) := by
      rw [← hget, ← List.drop_eq_getElem_cons hlt, List.take_append_drop]
    have hlast := List.drop_eq_nil_iff.1 (hh _ _ _ hsplit rfl)
    omega

/-- A run in which nothing happens has no steps. -/
theorem tellsFaults_of_nil {run : Run σ} (h : run.result.events = []) :
    run.TellsFaults setting start := by
  refine ⟨?_, ?_⟩
  · intro k node outcome hevent
    simp [h] at hevent
  · intro k node outcome hevent
    simp [h] at hevent

end

end Run

variable {σ : Type}

/-- Evaluation fails in two cases; in the run of a graph, and of a workflow, it makes the step
fail. -/
theorem tellsFaults_run (budget : Int) (timeout : Binary64) (gate : Bool) (values : Context)
    (caller? : Option (Caller σ)) (event : Option FormEvent) (start : σ) :
    (∀ name actual expected, Condition.FailsInTwoCases name actual expected)
      ∧ (∀ graph : Graph,
        (graph.run (.ofNumbers budget timeout gate) values caller? event start).TellsFaults
          ((RunOptions.ofNumbers budget timeout gate).setting graph caller?) ⟨values, start⟩)
      ∧ ∀ workflow : Workflow,
        (workflow.run (.ofNumbers budget timeout gate) values caller? event start).TellsFaults
          ((RunOptions.ofNumbers budget timeout gate).setting workflow.toGraph caller?)
          ⟨values, start⟩ := by
  have ht := RunOptions.ofNumbers_timeout_not_lt budget timeout gate
  have hgraph : ∀ graph : Graph,
      (graph.run (.ofNumbers budget timeout gate) values caller? event start).TellsFaults
        ((RunOptions.ofNumbers budget timeout gate).setting graph caller?) ⟨values, start⟩ := by
    intro graph
    have hhalts := (Graph.isShaped_of_nil_or_trails (graph.run_nil_or_trails
      (.ofNumbers budget timeout gate) values caller? event start)).halts
    by_cases hgate : gate = true ∧ graph.isValid = false
    · rw [Graph.run_eq_idle hgate.1 hgate.2]
      exact Run.tellsFaults_of_nil rfl
    · rw [Graph.run_eq_ofGraph (by simpa [RunOptions.ofNumbers] using hgate)] at hhalts ⊢
      exact (Run.isReplay_ofGraph _ values (fun _ => Graph.mem_nodes_of_mem_startNodes)
        start).tellsFaults ht hhalts
  refine ⟨Condition.failsInTwoCases, hgraph, ?_⟩
  intro workflow
  cases he : workflow.enabled with
  | false =>
    rw [Workflow.run_of_disabled he]
    exact Run.tellsFaults_of_nil rfl
  | true =>
    rw [Workflow.run_of_enabled he]
    exact hgraph workflow.toGraph

/-- A rate that is too large for a double cannot be compared. -/
theorem tellsFaults_run_rates :
    let start : Reply := ⟨.ok (.int (10 ^ 400)), .zero false⟩
    let setting := (RunOptions.ofNumbers 100 (.ofNat 30) false).setting .rates (some .constant)
    let result := (Graph.ratesRun start).result
    ∃ node outcome, result.events[2]? = some (.executed node outcome)
      ∧ node.action = .condition (some "rate") (some .greaterThan) (some (.int 100))
      ∧ Run.evaluationAt (setting.afterAll ⟨[], start⟩ (result.events.take 2)) "rate"
          .greaterThan (some (.int 100)) = .error .overflow
      ∧ (Event.executed node outcome).TellsFault node .overflow ∧ result.events.length = 3 := by
  intro start setting result
  have htells := (tellsFaults_run 100 (.ofNat 30) false [] (some Caller.constant) none start).2.1
    .rates
  have hfault : Run.evaluationAt (setting.afterAll ⟨[], start⟩ (result.events.take 2)) "rate"
      .greaterThan (some (.int 100)) = .error .overflow := by decide +kernel
  have hlast : ∃ event ∈ result.events[2]?, event.isFatal = false
      ∧ event.node?.map Node.action
        = some (.condition (some "rate") (some .greaterThan) (some (.int 100))) := by
    decide +kernel
  obtain ⟨event, hevent, hfatal, hnode⟩ := hlast
  cases event with
  | executed node outcome =>
    have ha := Option.some.inj hnode
    obtain ⟨htold, hlength, -⟩ :=
      htells.told 2 node outcome hevent _ _ _ ha (by decide) _ hfault
    exact ⟨node, outcome, hevent, ha, hfault, htold, hlength⟩
  | exhausted node budget => cases hfatal
  | lost id => cases hfatal

end FormAutomation
