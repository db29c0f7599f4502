import FormAutomation.Proofs.Run.Trail

/-!
# The shape of a run

A run is a row of successes, which may end in an error.  The budget bounds the
nodes that are executed; a run that spent it has executed exactly as many nodes
as it allowed, all of them with success, and stops at a node that exists.  A run
that loses its way stops where the edge leads to that it followed last.

This holds however the graph is built: the trails of all start nodes share one
budget, so a chain that begins when it is spent executes nothing.
-/

namespace FormAutomation

namespace Graph

/-- What a row of events looks like that is recorded when so many steps are
left. -/
structure Shape (graph : Graph) (budget left : Nat) (events : List Event) : Prop where
  /-- successes, and at most one error, which is last -/
  errorLast : ∃ done error?, events = done ++ Option.toList error?
    ∧ (∀ event ∈ done, event.succeeded = true) ∧ ∀ event ∈ error?, event.succeeded = false
  /-- the nodes that were executed -/
  executed_le : events.countP (!·.isFatal) ≤ left
  /-- all steps were taken with success, and there would have been one more -/
  exhausted : ∀ node spent, .exhausted node spent ∈ events →
    spent = budget ∧ node ∈ graph.nodes
      ∧ ∃ done, events = done ++ [.exhausted node spent] ∧ done.length = left
        ∧ ∀ event ∈ done, event.succeeded = true
  /-- the edge from the node before leads to no node -/
  lost : ∀ id, .lost id ∈ events →
    id ∉ graph.ids
      ∧ ∃ done last edge, events = done ++ [last, .lost id] ∧ last.succeeded = true
        ∧ graph.edgeAfter? last = some edge ∧ edge.target = id

end Graph

/-- What the result of a run looks like. -/
structure RunResult.IsShaped (graph : Graph) (budget : Nat) (result : RunResult) : Prop where
  /-- the events -/
  shape : graph.Shape budget budget result.events
  /-- at most one event is fatal -/
  fatal_le : result.events.countP Event.isFatal ≤ 1
  /-- nothing is recorded after an error -/
  halts : ∀ before event after, result.events = before ++ event :: after →
    event.succeeded = false → after = []
  /-- a run that was aborted did not succeed -/
  aborted : result.aborted = true → result.succeeded = false

/-! ## Events -/

/-- What did not succeed is not the success in front. -/
theorem Event.mem_of_mem_cons {event other : Event} {events : List Event}
    (h : other ∈ event :: events) (hs : event.succeeded = true) (ho : other.succeeded = false) :
    other ∈ events := by
  rcases List.mem_cons.1 h with rfl | h
  · rw [hs] at ho
    cases ho
  · exact h

namespace Graph

variable {graph : Graph} {budget left : Nat} {events : List Event}

/-! ## One event more -/

namespace Shape

theorem nil : graph.Shape budget left [] where
  errorLast := ⟨[], none, by simp⟩
  executed_le := by simp
  exhausted := by simp
  lost := by simp

/-- A success in front takes one step. -/
theorem cons {event : Event} (h : graph.Shape budget left events)
    (hs : event.succeeded = true) : graph.Shape budget (left + 1) (event :: events) where
  errorLast := by
    obtain ⟨done, error?, rfl, hdone, herror⟩ := h.errorLast
    refine ⟨event :: done, error?, rfl, ?_, herror⟩
    rintro other hother
    rcases List.mem_cons.1 hother with rfl | hother
    · exact hs
    · exact hdone other hother
  executed_le := by
    have := h.executed_le
    rw [List.countP_cons_of_pos (by simp [Event.isFatal_of_succeeded hs])]
    omega
  exhausted := by
    intro node spent hmem
    have hrest := Event.mem_of_mem_cons hmem hs rfl
    obtain ⟨hspent, hnode, done, hevents, hlength, hdone⟩ := h.exhausted node spent hrest
    refine ⟨hspent, hnode, event :: done, by rw [hevents]; rfl, by simp [hlength], ?_⟩
    rintro other hother
    rcases List.mem_cons.1 hother with rfl | hother
    · exact hs
    · exact hdone other hother
  lost := by
    intro id hmem
    have hrest := Event.mem_of_mem_cons hmem hs rfl
    obtain ⟨hid, done, last, edge, hevents, hlast⟩ := h.lost id hrest
    exact ⟨hid, event :: done, last, edge, by rw [hevents]; rfl, hlast⟩

/-- Successes in front take a step each. -/
theorem append {done : List Event} (hs : ∀ event ∈ done, event.succeeded = true)
    (h : graph.Shape budget left events) :
    graph.Shape budget (left + done.length) (done ++ events) := by
  induction done with
  | nil => exact h
  | cons event rest ih =>
    have hrest := ih fun other hother => hs other (List.mem_cons_of_mem _ hother)
    exact hrest.cons (hs event List.mem_cons_self)

/-- Successes take no more steps than are left. -/
theorem length_le (h : graph.Shape budget left events)
    (hs : ∀ event ∈ events, event.succeeded = true) : events.length ≤ left := by
  have hall : events.countP (!·.isFatal) = events.length := by
    rw [List.countP_eq_length]
    intro event hevent
    simp [Event.isFatal_of_succeeded (hs event hevent)]
  rw [← hall]
  exact h.executed_le

end Shape

/-! ## Trails -/

theorem Trail.shape {node : Node} {trail : List Event} (h : graph.Trail budget left node trail) :
    graph.Shape budget left trail := by
  induction h with
  | exhausted hn =>
    exact
      { errorLast := ⟨[], some _, rfl, by simp, by simp [Event.succeeded]⟩
        executed_le := by simp [Event.isFatal]
        exhausted := by
          intro node spent hmem
          obtain ⟨rfl, rfl⟩ := Event.exhausted.inj (List.mem_singleton.1 hmem)
          exact ⟨rfl, (node?_eq_some_iff.1 hn).1, [], rfl, rfl, by simp⟩
        lost := by simp }
  | failed hn =>
    exact
      { errorLast := ⟨[], some _, rfl, by simp, by simp [Event.succeeded]⟩
        executed_le := by simp [Event.isFatal]
        exhausted := by simp
        lost := by simp }
  | ended hn he => exact Shape.nil.cons rfl
  | @lost left node effect edge hn he ht =>
    exact
      { errorLast :=
          ⟨[.executed node (.success effect)], some _, rfl, by simp [Event.succeeded],
            by simp [Event.succeeded]⟩
        executed_le := by simp [Event.isFatal]
        exhausted := by simp
        lost := by
          intro id hmem
          obtain rfl : id = edge.target := by simpa using hmem
          exact ⟨node?_eq_none_iff.1 ht, [], _, edge, rfl, rfl, he, rfl⟩ }
  | next hn he ht hr ih => exact ih.cons rfl

theorem Trails.shape {starts : List Node} {trails : List (List Event)}
    (h : graph.Trails budget left starts trails) : graph.Shape budget left trails.flatten := by
  induction h with
  | nil => exact Shape.nil
  | halted ht he =>
    rw [List.flatten_singleton]
    exact ht.shape
  | @next left start rest trail trails ht hs hr ih =>
    -- the trail took as many steps as it has events
    have hle := ht.shape.length_le hs
    have := Shape.append hs ih
    rwa [Nat.sub_add_cancel hle] at this

/-! ## Results -/

/-- Nothing comes after an error. -/
theorem Shape.eq_nil_of_error (h : graph.Shape budget left events) {before after : List Event}
    {event : Event} (hsplit : events = before ++ event :: after)
    (herror : event.succeeded = false) : after = [] := by
  obtain ⟨done, error?, hevents, hdone, -⟩ := h.errorLast
  have hnot : event ∉ done := by
    intro hmem
    rw [hdone event hmem] at herror
    cases herror
  rw [hevents] at hsplit
  rcases List.eq_nil_or_concat' after with hnil | ⟨initial, last, rfl⟩
  · exact hnil
  · -- otherwise the event stands among the successes
    refine absurd ?_ hnot
    rw [← List.cons_append, ← List.append_assoc] at hsplit
    rcases error? with _ | error
    · rw [Option.toList_none, List.append_nil] at hsplit
      rw [hsplit]
      simp
    · obtain ⟨hinit, -⟩ := List.append_inj' hsplit rfl
      rw [hinit]
      simp

/-- Errors, fatal ones among them, are where the shape of the events has them. -/
theorem Shape.isShaped {result : RunResult} (h : graph.Shape budget budget result.events) :
    result.IsShaped graph budget := by
  obtain ⟨done, error?, hevents, hdone, herror⟩ := h.errorLast
  have hfatal : done.countP Event.isFatal = 0 := by
    rw [List.countP_eq_zero]
    intro event hevent
    simp [Event.isFatal_of_succeeded (hdone event hevent)]
  refine ⟨h, ?_, ?_, ?_⟩
  · rw [hevents, List.countP_append, hfatal]
    have hcount : error?.toList.countP Event.isFatal ≤ error?.toList.length :=
      List.countP_le_length
    have hlength : error?.toList.length ≤ 1 := Option.length_toList_le
    omega
  · exact fun before event after => h.eq_nil_of_error
  · intro haborted
    obtain ⟨event, hmem, hevent⟩ := List.any_eq_true.1 haborted
    have hnot : event.succeeded = false := by
      by_contra hs
      rw [Event.isFatal_of_succeeded (by simpa using hs)] at hevent
      cases hevent
    have hall : result.events.all Event.succeeded = false :=
      List.all_eq_false.2 ⟨event, hmem, by simp [hnot]⟩
    rw [RunResult.succeeded, hall, Bool.and_false]

/-- Where nothing is recorded or trails are, the events have their shape. -/
theorem isShaped_of_nil_or_trails {starts : List Node} {result : RunResult}
    (h : result.events = []
      ∨ ∃ trails, graph.Trails budget budget starts trails ∧ result.events = trails.flatten) :
    result.IsShaped graph budget := by
  refine Shape.isShaped ?_
  rcases h with h | ⟨trails, ht, h⟩
  · rw [h]
    exact .nil
  · rw [h]
    exact ht.shape

end Graph

variable {σ : Type}

/-- Every run has this shape, whatever the graph, the values, the answers and the
event are. -/
theorem isShaped_run (options : RunOptions) (values : Context) (caller? : Option (Caller σ))
    (event : Option FormEvent) (caller : σ) :
    (∀ graph : Graph,
        (graph.run options values caller? event caller).result.IsShaped graph options.budget)
      ∧ ∀ workflow : Workflow,
        (workflow.run options values caller? event caller).result.IsShaped workflow.toGraph
          options.budget := by
  constructor
  · intro graph
    exact Graph.isShaped_of_nil_or_trails
      (graph.run_nil_or_trails options values caller? event caller)
  · intro workflow
    exact Graph.isShaped_of_nil_or_trails
      (workflow.run_nil_or_trails options values caller? event caller)

end FormAutomation
