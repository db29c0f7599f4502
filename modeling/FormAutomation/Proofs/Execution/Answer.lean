import FormAutomation.Proofs.Execution.Attempt

/-!
# Attempts with callers

Callers answer with values or with faults.  Where one of them is asked, nothing is let through
but by what cannot be looked up, and an attempt comes to what the execution comes to: it tells
the same, and leaves the caller and its requests alike.
-/

namespace FormAutomation

variable {σ : Type}

/-- The outcome of an execution, as it is told in a context. -/
def Outcome.told (context : Context) : Outcome → NodeOutcome Value
  | .success effect => Things.values.outcome context effect
  | .failure fault => .failed fault.message

/-- The outcome of an execution, before anything is caught. -/
def Outcome.tried (context : Context) : Outcome → Except Raised (NodeOutcome Value)
  | .success effect => .ok (Things.values.outcome context effect)
  | .failure fault => .error fault.raised

/-- The scene behind an execution. -/
def Scene.past (scene : Scene σ) (execution : Execution σ) : Scene σ :=
  { scene with
    agent := execution.caller, requests := scene.requests ++ execution.request.toList }

section

variable {caller? : Option (Caller σ)} {scene : Scene σ}

/-- Executing a call is asking, and then doing something with the response. -/
theorem Attempt.run_ask_agent (id : String) (endpoint : Endpoint) (does : Value → Effect)
    {execution : Execution σ}
    (h : executeCall id endpoint scene.context caller? scene.agent does = execution) :
    (∃ fault, execution.outcome = .failure fault
        ∧ (ask id endpoint (caller?.map Caller.agent)).run scene
          = (.error fault.raised, scene.past execution))
      ∨ ∃ response, execution.outcome = .success (does response)
        ∧ (ask id endpoint (caller?.map Caller.agent)).run scene
          = (.ok response, scene.past execution) := by
  subst h
  rcases caller? with _ | caller
  · refine .inl ⟨_, rfl, ?_⟩
    rw [Option.map_none, run_ask_none, Scene.past, executeCall, Option.toList_none,
      List.append_nil]
  · rw [Option.map_some]
    rcases hr : endpoint.request? scene.context with _ | request
    · refine .inl ⟨.noRequestUrl id, by simp only [executeCall, hr], ?_⟩
      rw [run_ask_of_noUrl hr]
      simp only [Scene.past, executeCall, hr, Option.toList_none, List.append_nil]
    · rcases hc : caller.call request scene.context scene.agent with ⟨⟨response, delay⟩, state⟩
      have ha : caller.agent.call request scene.context scene.agent
          = (response.mapError CallFault.raised, state) := by
        simp only [Caller.agent, hc]
      have hpast : scene.past (executeCall id endpoint scene.context (some caller) scene.agent does)
          = scene.after request state := by
        simp only [Scene.past, Scene.after, executeCall, hr, hc, Option.toList_some]
      rw [run_ask_of_request hr ha, hpast]
      rcases response with (message | message) | response
      · exact .inl ⟨.toldByCaller message, by simp only [executeCall, hr, hc], rfl⟩
      · exact .inl ⟨.callFailed request message, by simp only [executeCall, hr, hc], rfl⟩
      · exact .inr ⟨response, by simp only [executeCall, hr, hc], rfl⟩

/-- Where the things are values, what a node did is told of it as it is. -/
theorem mapValues_ofValue (entries : Entries Value) :
    Entries.mapValues Things.values.ofValue entries = entries :=
  List.map_id' entries

/-- With a caller, the executor of a node comes to what its execution comes to. -/
theorem Node.run_attempt_agent (node : Node) (caller? : Option (Caller σ)) (scene : Scene σ) :
    (node.attempt Things.values (caller?.map Caller.agent)).run scene
      = ((node.execute scene.context caller? scene.agent).outcome.tried scene.context,
        scene.past (node.execute scene.context caller? scene.agent)) := by
  unfold Node.attempt
  cases hn : node.action with
  | callApi endpoint =>
    have hexecute : executeCall node.id endpoint scene.context caller? scene.agent
        (callEffect node.id) = node.execute scene.context caller? scene.agent := by
      rw [Node.execute, hn]
    dsimp only
    rcases Attempt.run_ask_agent _ _ _ hexecute with
      ⟨fault, houtcome, hask⟩ | ⟨response, houtcome, hask⟩
    · rw [Attempt.run_bind_of_error hask, houtcome]
      rfl
    · rw [Attempt.run_bind_of_ok hask, houtcome, Outcome.tried, Things.outcome,
        mapValues_ofValue, mapValues_ofValue]
      rfl
  | fetchOptions endpoint source =>
    have hexecute : executeCall node.id endpoint scene.context caller? scene.agent
        (optionsEffect node.id source) = node.execute scene.context caller? scene.agent := by
      rw [Node.execute, hn]
    dsimp only
    rcases Attempt.run_ask_agent _ _ _ hexecute with
      ⟨fault, houtcome, hask⟩ | ⟨response, houtcome, hask⟩
    · rw [Attempt.run_bind_of_error hask, houtcome]
      rfl
    · rw [Attempt.run_bind_of_ok hask, houtcome, Outcome.tried, Things.outcome,
        mapValues_ofValue, mapValues_ofValue]
      rfl
  | _ =>
    dsimp only
    rw [Attempt.run_context_bind, execute_of_local (by rw [hn]; rfl), hn, Scene.past,
      Option.toList_none, List.append_nil]
    split
    · next hl =>
      rw [hl]
      rfl
    · next hl =>
      rw [hl]
      rfl

/-- With a caller, what can be looked up is executed without anything let through. -/
theorem Executable.run_attempt_agent {executable : Executable} (h : executable.isHashable = true)
    (caller? : Option (Caller σ)) (scene : Scene σ) :
    (executable.attempt Things.values (caller?.map Caller.agent)).run scene
      = (.ok ((executable.execute scene.context caller? scene.agent).outcome.told scene.context),
        scene.past (executable.execute scene.context caller? scene.agent)) := by
  cases executable with
  | configured node =>
    have hrun := node.run_attempt_agent caller? scene
    rw [attempt, execute]
    rcases houtcome : (node.execute scene.context caller? scene.agent).outcome with effect | fault
    · rw [houtcome] at hrun
      exact Attempt.run_handled_of_ok hrun
    · rw [houtcome] at hrun
      rw [Attempt.run_handled_of_error hrun, NodeFault.caught_raised]
      rfl
  | bare id type =>
    have hcomes := comes_attempt Things.values (.bare id type) (caller?.map Caller.agent) scene
    generalize ((bare id type).attempt Things.values _).run scene = result at hcomes ⊢
    cases hcomes with
    | bare hh hf =>
      rw [Option.isSome_map] at hf
      rw [execute, hf, Scene.past, Option.toList_none, List.append_nil]
      rfl
    | unhashable hh => exact absurd (h.symm.trans hh) (by decide)

/-- What is told of the execution of a node is clean. -/
theorem Node.isClean_told_execute (node : Node) (context : Context) (caller? : Option (Caller σ))
    (state : σ) :
    ((node.execute context caller? state).outcome.told context).IsClean node.kind.name := by
  have hh : (Executable.configured node).isHashable = true := rfl
  have hrun := Executable.run_attempt_agent hh caller? ⟨context, state, []⟩
  exact Executable.isClean_of_run_attempt (congrArg Prod.fst hrun)

end

end FormAutomation
