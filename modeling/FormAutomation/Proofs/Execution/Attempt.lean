import FormAutomation.Proofs.Execution.Fault

/-!
# What comes of an attempt

An attempt to execute something ends with an outcome or lets something through that was raised.
The faults of nodes are never let through, nor are errors of those who are asked, as long as it
can be said what they are.  A signal is, and so is what gets in the way of telling an error.

An outcome is *clean* if it is one thing or the other.  What failed tells of its fault and of
nothing else: it has no data, takes no branch and leaves nothing to be set, opened or shown.
What succeeded tells of no error, and takes a branch exactly if it is a condition.

However an attempt ends, the context is what it was.
-/

namespace FormAutomation

variable {σ ω α β : Type}

/-! ## Clean outcomes -/

namespace NodeOutcome

/-- There is nothing that was told, taken, set, opened or shown. -/
structure IsEmpty (outcome : NodeOutcome ω) : Prop where
  /-- no data -/
  data : outcome.data = none
  /-- no branch -/
  branch : outcome.branch = none
  /-- nothing is set in the context -/
  contextPatch : outcome.contextPatch = []
  /-- nor on the form -/
  fieldUpdates : outcome.fieldUpdates = []
  /-- no field gets options -/
  optionUpdates : outcome.optionUpdates = []
  /-- no page is opened -/
  redirect : outcome.redirect = none
  /-- no message is shown -/
  dialog : outcome.dialog = none

/-- The outcome of something of a kind is a success or an error, and no mixture of both. -/
structure IsClean (outcome : NodeOutcome ω) (kindName : String) : Prop where
  /-- an error says what went wrong, and there is nothing else -/
  error : outcome.status = .error → outcome.error.isSome = true ∧ outcome.IsEmpty
  /-- in a success nothing went wrong, and only conditions take branches -/
  success : outcome.status = .success → outcome.error = none
    ∧ (outcome.branch.isSome = true ↔ kindName = NodeKind.condition.name)

variable {kindName : String} {message : String}

theorem isClean_failed : (failed message : NodeOutcome ω).IsClean kindName where
  error := fun _ => ⟨rfl, rfl, rfl, rfl, rfl, rfl, rfl, rfl⟩
  success := nofun

theorem isClean_of_success {outcome : NodeOutcome ω} (hs : outcome.status = .success)
    (he : outcome.error = none)
    (hb : outcome.branch.isSome = true ↔ kindName = NodeKind.condition.name) :
    outcome.IsClean kindName where
  error := fun h => by
    rw [hs] at h
    cases h
  success := fun _ => ⟨he, hb⟩

end NodeOutcome

/-! ## Steps of attempts -/

namespace Attempt

variable {attempt : Attempt σ α} {next : α → Attempt σ β} {scene scene' : Scene σ}

theorem run_bind_of_ok {a : α} (h : attempt.run scene = (.ok a, scene')) :
    (attempt >>= next).run scene = (next a).run scene' := by
  simp only [bind, h]

theorem run_context_bind {next : Context → Attempt σ β} :
    (context >>= next).run scene = (next scene.context).run scene :=
  rfl

theorem run_bind_of_error {raised : Raised} (h : attempt.run scene = (.error raised, scene')) :
    (attempt >>= next).run scene = (.error raised, scene') := by
  simp only [bind, h]

theorem run_handled_of_ok {handle : Raised → Except Raised α} {a : α}
    (h : attempt.run scene = (.ok a, scene')) :
    (attempt.handled handle).run scene = (.ok a, scene') := by
  simp only [handled, h]

theorem run_handled_of_error {handle : Raised → Except Raised α} {raised : Raised}
    (h : attempt.run scene = (.error raised, scene')) :
    (attempt.handled handle).run scene = (handle raised, scene') := by
  simp only [handled, h]

theorem run_ofExcept_handled {handle : Raised → Except Raised α} {raised : Raised} :
    ((ofExcept (.error raised)).handled handle).run scene = (handle raised, scene) :=
  rfl

/-- Who is not there is not asked. -/
theorem run_ask_none {node : String} {endpoint : Endpoint} :
    (ask (ω := ω) node endpoint none).run scene
      = (.error (NodeFault.noCaller node).raised, scene) :=
  rfl

/-- Nobody is asked without an address. -/
theorem run_ask_of_noUrl {node : String} {endpoint : Endpoint} {agent : Agent σ ω}
    (hr : endpoint.request? scene.context = none) :
    (ask node endpoint (some agent)).run scene
      = (.error (NodeFault.noRequestUrl node).raised, scene) := by
  simp only [ask, bind, context, hr, ofExcept]

/-- Who is asked is asked once. -/
theorem run_ask_of_request {node : String} {endpoint : Endpoint} {agent : Agent σ ω}
    {asked : Request} {answer : Except Raised ω} {state : σ}
    (hr : endpoint.request? scene.context = some asked)
    (ha : agent.call asked scene.context scene.agent = (answer, state)) :
    (ask node endpoint (some agent)).run scene
      = (answer.mapError (·.behindCall asked), scene.after asked state) := by
  simp only [ask, bind, context, hr, request, ha]

end Attempt

/-! ## Ends of executors -/

/-- A node asks for something, and this is the answer, with the state that is left behind. -/
inductive Node.IsAnswered (agent? : Option (Agent σ ω)) (scene : Scene σ) (node : Node) :
    Request → Except Raised ω × σ → Prop where
  /-- by the one who is asked -/
  | by {agent : Agent σ ω} {endpoint : Endpoint} {request : Request}
      (he : node.action.endpoint? = some endpoint) (hc : agent? = some agent)
      (hr : endpoint.request? scene.context = some request) :
      IsAnswered agent? scene node request (agent.call request scene.context scene.agent)

/-- Whoever is asked, a node has this fault. -/
inductive Node.HasFault (agent? : Option (Agent σ ω)) (scene : Scene σ) (node : Node) :
    NodeFault → Prop where
  /-- there is nobody to be asked -/
  | noCaller {endpoint : Endpoint} (he : node.action.endpoint? = some endpoint)
      (hc : agent? = none) : HasFault agent? scene node (.noCaller node.id)
  /-- there is no address -/
  | noUrl {agent : Agent σ ω} {endpoint : Endpoint}
      (he : node.action.endpoint? = some endpoint) (hc : agent? = some agent)
      (hr : endpoint.request? scene.context = none) :
      HasFault agent? scene node (.noRequestUrl node.id)
  /-- it fails by itself -/
  | alone {fault : NodeFault} (he : node.action.endpoint? = none)
      (hl : executeLocal node.id node.action scene.context = .failure fault) :
      HasFault agent? scene node fault

/-- What comes of the executor of a node, and what it leaves behind. -/
inductive Node.Comes (things : Things ω) (agent? : Option (Agent σ ω)) (scene : Scene σ)
    (node : Node) : Except Raised (NodeOutcome ω) × Scene σ → Prop where
  /-- it did something by itself -/
  | done {effect : Effect} (he : node.action.endpoint? = none)
      (hl : executeLocal node.id node.action scene.context = .success effect) :
      Comes things agent? scene node (.ok (things.outcome scene.context effect), scene)
  /-- it has a fault -/
  | faulty {fault : NodeFault} (hf : node.HasFault agent? scene fault) :
      Comes things agent? scene node (.error fault.raised, scene)
  /-- something is raised in place of an answer -/
  | broken {request : Request} {raised : Raised} {state : σ}
      (ha : node.IsAnswered agent? scene request (.error raised, state)) :
      Comes things agent? scene node
        (.error (raised.behindCall request), scene.after request state)
  /-- it has the answer -/
  | called {endpoint : Endpoint} {request : Request} {thing : ω} {state : σ}
      (hn : node.action = .callApi endpoint)
      (ha : node.IsAnswered agent? scene request (.ok thing, state)) :
      Comes things agent? scene node
        (.ok { data := some thing, contextPatch := thingPatch node.id thing },
          scene.after request state)
  /-- no options can be made of the answer -/
  | unread {endpoint : Endpoint} {source : OptionSource} {request : Request} {thing : ω}
      {raised : Raised} {state : σ} (hn : node.action = .fetchOptions endpoint source)
      (ha : node.IsAnswered agent? scene request (.ok thing, state))
      (ho : things.options source thing = .error raised) :
      Comes things agent? scene node (.error raised, scene.after request state)
  /-- it has the options -/
  | filled {endpoint : Endpoint} {source : OptionSource} {request : Request} {thing : ω}
      {options : List SelectOption} {state : σ} (hn : node.action = .fetchOptions endpoint source)
      (ha : node.IsAnswered agent? scene request (.ok thing, state))
      (ho : things.options source thing = .ok options) :
      Comes things agent? scene node
        (.ok
          { data := some (things.ofValue (.list (options.map SelectOption.toValue)))
            contextPatch := thingPatch node.id thing
            optionUpdates := source.updates options },
          scene.after request state)

namespace Node

variable {things : Things ω} {agent? : Option (Agent σ ω)} {scene : Scene σ} {node : Node}

/-- What an executor asks for is answered, or it has a fault. -/
theorem exists_run_ask_eq (agent? : Option (Agent σ ω)) (scene : Scene σ)
    {endpoint : Endpoint} (he : node.action.endpoint? = some endpoint) :
    (∃ fault, node.HasFault agent? scene fault
        ∧ (Attempt.ask node.id endpoint agent?).run scene = (.error fault.raised, scene))
      ∨ ∃ request answer state, node.IsAnswered agent? scene request (answer, state)
        ∧ (Attempt.ask node.id endpoint agent?).run scene
          = (answer.mapError (·.behindCall request), scene.after request state) := by
  rcases agent? with _ | agent
  · exact .inl ⟨_, .noCaller he rfl, Attempt.run_ask_none⟩
  · rcases hr : endpoint.request? scene.context with _ | request
    · exact .inl ⟨_, .noUrl he rfl hr, Attempt.run_ask_of_noUrl hr⟩
    · rcases ha : agent.call request scene.context scene.agent with ⟨answer, state⟩
      exact .inr ⟨request, answer, state, ha ▸ .by he rfl hr, Attempt.run_ask_of_request hr ha⟩

/-- What is answered was asked for. -/
theorem IsAnswered.exists_run_ask_eq {request : Request} {answer : Except Raised ω} {state : σ}
    (h : node.IsAnswered agent? scene request (answer, state)) :
    ∃ endpoint, node.action.endpoint? = some endpoint
      ∧ (Attempt.ask node.id endpoint agent?).run scene
        = (answer.mapError (·.behindCall request), scene.after request state) := by
  generalize hanswered : (answer, state) = answered at h
  obtain ⟨he, rfl, hr⟩ := h
  exact ⟨_, he, Attempt.run_ask_of_request hr hanswered.symm⟩

/-- Executors come to one of these ends. -/
theorem comes_attempt (things : Things ω) (agent? : Option (Agent σ ω)) (scene : Scene σ)
    (node : Node) : node.Comes things agent? scene ((node.attempt things agent?).run scene) := by
  unfold Node.attempt
  cases hn : node.action with
  | callApi endpoint =>
    dsimp only
    rcases exists_run_ask_eq agent? scene (by rw [hn]; rfl) with
      ⟨fault, hf, hask⟩ | ⟨request, raised | thing, state, ha, hask⟩
    · rw [Attempt.run_bind_of_error hask]
      exact .faulty hf
    · rw [Attempt.run_bind_of_error hask]
      exact .broken ha
    · rw [Attempt.run_bind_of_ok hask]
      exact .called hn ha
  | fetchOptions endpoint source =>
    dsimp only
    rcases exists_run_ask_eq agent? scene (by rw [hn]; rfl) with
      ⟨fault, hf, hask⟩ | ⟨request, raised | thing, state, ha, hask⟩
    · rw [Attempt.run_bind_of_error hask]
      exact .faulty hf
    · rw [Attempt.run_bind_of_error hask]
      exact .broken ha
    · rw [Attempt.run_bind_of_ok hask]
      cases ho : things.options source thing with
      | error raised => exact .unread hn ha ho
      | ok options => exact .filled hn ha ho
  | _ =>
    dsimp only
    rw [Attempt.run_context_bind]
    split
    · next hl => exact .done (by rw [hn]; rfl) (by rw [hn]; exact hl)
    · next hl => exact .faulty (.alone (by rw [hn]; rfl) (by rw [hn]; exact hl))

/-- A node that asks for nothing does what it does by itself. -/
theorem execute_of_local {context : Context} {caller? : Option (Caller σ)} {state : σ}
    (he : node.action.endpoint? = none) :
    node.execute context caller? state
      = { outcome := executeLocal node.id node.action context, request := none
          delay := .zero false, caller := state } := by
  unfold Node.execute
  cases hn : node.action with
  | callApi endpoint | fetchOptions endpoint source =>
    rw [hn] at he
    cases he
  | _ => rfl

/-- The context is left alone. -/
theorem Comes.context_eq {result : Except Raised (NodeOutcome ω) × Scene σ}
    (h : node.Comes things agent? scene result) : result.2.context = scene.context := by
  cases h <;> rfl

/-- An executor that succeeds takes a branch exactly if it is the one of conditions. -/
theorem Comes.isSome_branch {outcome : NodeOutcome ω} {scene' : Scene σ}
    (h : node.Comes things agent? scene (.ok outcome, scene')) :
    outcome.branch.isSome = (node.kind == .condition) := by
  cases h with
  | @done effect he hl =>
    have hexecute : (node.execute scene.context none ()).outcome = .success effect := by
      rw [execute_of_local he, hl]
    exact isSome_branch_of_execute hexecute
  | called hn ha | filled hn ha ho =>
    rw [Node.kind, hn]
    rfl

/-- What an executor comes to, unless something is raised, is clean. -/
theorem Comes.isClean {outcome : NodeOutcome ω} {scene' : Scene σ}
    (h : node.Comes things agent? scene (.ok outcome, scene')) :
    outcome.IsClean node.kind.name := by
  refine NodeOutcome.isClean_of_success ?_ ?_ ?_
  · cases h <;> rfl
  · cases h <;> rfl
  · rw [h.isSome_branch, beq_iff_eq, NodeKind.name_inj]

end Node

/-! ## What is let through -/

namespace Raised

/-- It is an error, and it can be said what it is. -/
def IsTellable (raised : Raised) : Prop :=
  raised.rank ≠ .signal ∧ ∃ message, raised.text = .ok message

/-- Something is raised, and this is what gets out. -/
inductive Escapes (raised : Raised) : Raised → Prop where
  /-- a signal itself -/
  | signal (h : raised.rank = .signal) : Escapes raised raised
  /-- what is raised when an error is asked for its text -/
  | untold {instead : Raised} (h : raised.rank ≠ .signal) (ht : raised.text = .error instead) :
      Escapes raised instead

variable {raised out : Raised}

/-- What is not caught gets out. -/
theorem caught_eq_error_iff : raised.caught (ω := ω) = .error out ↔ raised.Escapes out := by
  constructor
  · intro h
    cases hr : raised.rank with
    | signal =>
      simp only [caught, hr] at h
      obtain rfl := Except.error.inj h
      exact .signal hr
    | nodeFailed | error =>
      rcases ht : raised.text with instead | message
      · simp only [caught, hr, ht, Except.map] at h
        obtain rfl := Except.error.inj h
        exact .untold (by rw [hr]; exact nofun) ht
      · simp only [caught, hr, ht, Except.map] at h
        cases h
  · rintro (hr | ⟨hr, ht⟩)
    · simp only [caught, hr]
    · cases hr' : raised.rank with
      | signal => exact absurd hr' hr
      | nodeFailed | error => simp only [caught, hr', ht, Except.map]

/-- What is caught is told in place of an outcome. -/
theorem exists_of_caught_eq_ok {outcome : NodeOutcome ω} (h : raised.caught = .ok outcome) :
    ∃ message, outcome = .failed message := by
  cases hr : raised.rank with
  | signal =>
    simp only [caught, hr] at h
    cases h
  | nodeFailed | error =>
    rcases ht : raised.text with instead | message
    · simp only [caught, hr, ht, Except.map] at h
      cases h
    · simp only [caught, hr, ht, Except.map] at h
      exact ⟨_, (Except.ok.inj h).symm⟩

theorem IsTellable.not_escapes (h : raised.IsTellable) : ¬ raised.Escapes out := by
  rintro (hr | ⟨-, ht⟩)
  · exact h.1 hr
  · obtain ⟨message, hmessage⟩ := h.2
    rw [hmessage] at ht
    cases ht

/-- What can be told can be told behind a call. -/
theorem IsTellable.behindCall (h : raised.IsTellable) (request : Request) :
    (raised.behindCall request).IsTellable := by
  obtain ⟨hr, message, ht⟩ := h
  cases hrank : raised.rank with
  | signal => exact absurd hrank hr
  | nodeFailed =>
    simp only [Raised.behindCall, hrank]
    exact ⟨hr, message, ht⟩
  | error =>
    simp only [Raised.behindCall, hrank, ht]
    exact ⟨nofun, _, rfl⟩

end Raised

/-- Faults can be told. -/
theorem NodeFault.isTellable_raised (fault : NodeFault) : fault.raised.IsTellable := by
  unfold NodeFault.raised
  split <;> exact ⟨nofun, _, rfl⟩

/-- What a fault says is what is told when it is caught. -/
theorem NodeFault.caught_raised (fault : NodeFault) :
    fault.raised.caught (ω := ω) = .ok (.failed fault.message) := by
  cases fault with
  | condition cause => cases cause <;> rfl
  | unconfigured part =>
    refine congrArg (fun message => Except.ok (NodeOutcome.failed message)) ?_
    have hkind : "AttributeError" ++ ": " ++ "'NoneType' object has no attribute '"
        = "AttributeError: 'NoneType' object has no attribute '" := by decide
    change "AttributeError" ++ ": " ++ ("'NoneType' object has no attribute '" ++ part ++ "'")
      = "AttributeError: 'NoneType' object has no attribute '" ++ part ++ "'"
    simp only [← hkind, String.append_assoc]
  | _ => rfl

/-- The node cannot be executed for what was raised by others. -/
inductive Node.IsDisturbed (things : Things ω) (agent? : Option (Agent σ ω)) (scene : Scene σ)
    (node : Node) : Raised → Prop where
  /-- by the one who was asked -/
  | asked {request : Request} {raised : Raised} {state : σ}
      (ha : node.IsAnswered agent? scene request (.error raised, state)) :
      IsDisturbed things agent? scene node (raised.behindCall request)
  /-- by the answer, when options are made of it -/
  | read {endpoint : Endpoint} {source : OptionSource} {request : Request} {thing : ω}
      {raised : Raised} {state : σ} (hn : node.action = .fetchOptions endpoint source)
      (ha : node.IsAnswered agent? scene request (.ok thing, state))
      (ho : things.options source thing = .error raised) :
      IsDisturbed things agent? scene node raised

section

variable {things : Things ω} {agent? : Option (Agent σ ω)} {scene : Scene σ}

/-- What is raised by others is raised by the executor. -/
theorem Node.IsDisturbed.run_attempt_eq {node : Node} {raised : Raised}
    (h : node.IsDisturbed things agent? scene raised) :
    ((node.attempt things agent?).run scene).1 = .error raised := by
  unfold Node.attempt
  cases h with
  | asked ha =>
    obtain ⟨endpoint, he, hask⟩ := ha.exists_run_ask_eq
    cases hn : node.action with
    | callApi endpoint' | fetchOptions endpoint' source =>
      rw [hn] at he
      obtain rfl := Option.some.inj he
      dsimp only
      rw [Attempt.run_bind_of_error hask]
    | _ =>
      rw [hn] at he
      cases he
  | read hn ha ho =>
    obtain ⟨endpoint, he, hask⟩ := ha.exists_run_ask_eq
    rw [hn] at he ⊢
    obtain rfl := Option.some.inj he
    dsimp only
    rw [Attempt.run_bind_of_ok hask, ho]
    rfl

/-- What an executor raises is a fault of the node or was raised by others. -/
theorem Node.Comes.isDisturbed {node : Node} {raised : Raised} {scene' : Scene σ}
    (h : node.Comes things agent? scene (.error raised, scene')) :
    (∃ fault : NodeFault, raised = fault.raised) ∨ node.IsDisturbed things agent? scene raised := by
  cases h with
  | faulty hf => exact .inl ⟨_, rfl⟩
  | broken ha => exact .inr (.asked ha)
  | unread hn ha ho => exact .inr (.read hn ha ho)

namespace Executable

variable {executable : Executable} {out : Raised}

/-- What was raised gets out. -/
inductive LetsOut (things : Things ω) (agent? : Option (Agent σ ω)) (scene : Scene σ) :
    Executable → Raised → Prop where
  /-- a node is disturbed by it -/
  | disturbed {node : Node} {raised out : Raised}
      (hd : node.IsDisturbed things agent? scene raised) (he : raised.Escapes out) :
      LetsOut things agent? scene (.configured node) out

/-- What comes of an attempt, and what it leaves behind. -/
inductive Comes (things : Things ω) (agent? : Option (Agent σ ω)) (scene : Scene σ) :
    Executable → Except Raised (NodeOutcome ω) × Scene σ → Prop where
  /-- the executor of a node comes to its end -/
  | ended {node : Node} {outcome : NodeOutcome ω} {scene' : Scene σ}
      (hn : node.Comes things agent? scene (.ok outcome, scene')) :
      Comes things agent? scene (.configured node) (.ok outcome, scene')
  /-- it raises something, which is caught or not -/
  | raised {node : Node} {raised : Raised} {scene' : Scene σ}
      (hn : node.Comes things agent? scene (.error raised, scene')) :
      Comes things agent? scene (.configured node) (raised.caught, scene')
  /-- what has no configuration fails -/
  | bare {id : String} {type : Value} {fault : NodeFault} (hh : type.isHashable = true)
      (hf : executeUnconfigured id type.shown agent?.isSome = .failure fault) :
      Comes things agent? scene (.bare id type) (.ok (.failed fault.message), scene)
  /-- there is nothing to be looked up -/
  | unhashable {id : String} {type : Value} (hh : type.isHashable = false) :
      Comes things agent? scene (.bare id type) (.error (.unhashable type), scene)

/-- Attempts come to one of these ends. -/
theorem comes_attempt (things : Things ω) (executable : Executable)
    (agent? : Option (Agent σ ω)) (scene : Scene σ) :
    executable.Comes things agent? scene ((executable.attempt things agent?).run scene) := by
  cases executable with
  | configured node =>
    have hcomes := node.comes_attempt things agent? scene
    rw [attempt]
    rcases hrun : (node.attempt things agent?).run scene with ⟨raised | outcome, scene'⟩
    · rw [hrun] at hcomes
      rw [Attempt.run_handled_of_error hrun]
      exact .raised hcomes
    · rw [hrun] at hcomes
      rw [Attempt.run_handled_of_ok hrun]
      exact .ended hcomes
  | bare id type =>
    cases hh : type.isHashable with
    | false =>
      simp only [attempt, hh, Bool.not_false, if_true]
      exact .unhashable hh
    | true =>
      simp only [attempt, hh, Bool.not_true, Bool.false_eq_true, if_false]
      rcases hk : NodeKind.ofName? type.shown with _ | kind
      · exact .bare hh (by rw [executeUnconfigured, hk])
      · dsimp only
        rw [Attempt.run_ofExcept_handled, NodeFault.caught_raised]
        exact .bare hh (by rw [executeUnconfigured, hk])

/-- What can be looked up lets out what disturbs it, and nothing else. -/
theorem run_attempt_eq_error_iff (h : executable.isHashable = true) :
    ((executable.attempt things agent?).run scene).1 = .error out
      ↔ executable.LetsOut things agent? scene out := by
  constructor
  · intro hout
    have hcomes := executable.comes_attempt things agent? scene
    generalize (executable.attempt things agent?).run scene = result at hout hcomes
    cases hcomes with
    | ended hn | bare hh hf => cases hout
    | unhashable hh => exact absurd (h.symm.trans hh) (by decide)
    | raised hn =>
      have hescapes := Raised.caught_eq_error_iff.1 hout
      rcases hn.isDisturbed with ⟨fault, rfl⟩ | hd
      · exact absurd hescapes fault.isTellable_raised.not_escapes
      · exact .disturbed hd hescapes
  · rintro ⟨hd, hescapes⟩
    rw [attempt, Attempt.run_handled_of_error (Prod.ext hd.run_attempt_eq rfl)]
    exact Raised.caught_eq_error_iff.2 hescapes

/-- If whatever is raised can be told, there is always an outcome. -/
theorem exists_outcome (h : executable.isHashable = true)
    (hc : ∀ agent ∈ agent?, ∀ request context state raised,
      (agent.call request context state).1 = .error raised → raised.IsTellable)
    (ho : ∀ source thing raised, things.options source thing = .error raised →
      raised.IsTellable) :
    ∃ outcome, ((executable.attempt things agent?).run scene).1 = .ok outcome := by
  rcases hrun : ((executable.attempt things agent?).run scene).1 with out | outcome
  · exfalso
    obtain ⟨hd, hescapes⟩ := (run_attempt_eq_error_iff h).1 hrun
    refine Raised.IsTellable.not_escapes ?_ hescapes
    cases hd with
    | @asked request raised state ha =>
      generalize hanswer : (Except.error raised, state) = answer at ha
      obtain ⟨he, hagent, hr⟩ := ha
      exact (hc _ hagent _ _ _ _ (congrArg Prod.fst hanswer).symm).behindCall request
    | read hn ha hoptions => exact ho _ _ _ hoptions
  · exact ⟨outcome, rfl⟩

/-- The context stays as it is, however the attempt ends. -/
theorem context_run_attempt (things : Things ω) (executable : Executable)
    (agent? : Option (Agent σ ω)) (scene : Scene σ) :
    ((executable.attempt things agent?).run scene).2.context = scene.context := by
  have hcomes := executable.comes_attempt things agent? scene
  generalize (executable.attempt things agent?).run scene = result at hcomes ⊢
  cases hcomes with
  | ended hn | raised hn => exact hn.context_eq
  | bare hh hf | unhashable hh => rfl

/-- Every outcome is clean. -/
theorem isClean_of_run_attempt {outcome : NodeOutcome ω}
    (h : ((executable.attempt things agent?).run scene).1 = .ok outcome) :
    outcome.IsClean executable.kindName := by
  have hcomes := executable.comes_attempt things agent? scene
  generalize (executable.attempt things agent?).run scene = result at h hcomes
  cases hcomes with
  | ended hn =>
    obtain rfl := Except.ok.inj h
    exact hn.isClean
  | raised hn =>
    obtain ⟨message, rfl⟩ := Raised.exists_of_caught_eq_ok h
    exact NodeOutcome.isClean_failed
  | bare hh hf =>
    obtain rfl := Except.ok.inj h
    exact NodeOutcome.isClean_failed
  | unhashable hh => cases h

end Executable

end

end FormAutomation
