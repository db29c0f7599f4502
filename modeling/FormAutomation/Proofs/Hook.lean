import FormAutomation.Hook

/-!
# Who hears what

A callback is called for every notice of its occasion, or, if it was limited to some types
of nodes, for those that are about such a node.  As long as no callback changes what it is
given, that is all there is to it: each one is given what was told, in the order of
registration, and what the others make of it has no effect.

To change a payload matters in one way only.  The type of the node that it names decides
who is called next, and one that is a list or an object is a fault.
-/

namespace FormAutomation

theorem Occasion.name_inj {occasion other : Occasion} (h : occasion.name = other.name) :
    occasion = other := by
  have hname := ofName?_name occasion
  rw [h, ofName?_name other] at hname
  exact (Option.some.inj hname).symm

/-- The kind of the node that a notice is about, if there is one and it exists. -/
def Notice.kind? : Notice → Option NodeKind
  | .beforeNode _ node _ => some node.kind
  | .afterNode _ node _ _ => some node.kind
  | .onError _ event _ => event.kind?
  | _ => none

/-- The callback leaves what it is given as it is. -/
def Callback.KeepsPayload (callback : Callback) : Prop :=
  ∀ payload, (callback.react payload).payload = payload

namespace Subscription

/-- Whether a node of this kind, if there is one, is in the scope. -/
def covers (subscription : Subscription) (kind? : Option NodeKind) : Bool :=
  subscription.scope.all fun types => kind?.any fun kind => types.contains kind.name

/-- Whether the callback is called for a notice. -/
def hears (subscription : Subscription) (notice : Notice) : Bool :=
  subscription.occasion == notice.occasion
    && (!notice.occasion.isAboutNode || subscription.covers notice.kind?)

/-- The call for a payload. -/
def delivery (subscription : Subscription) (payload : Entries Value) : Delivery where
  occasion := subscription.occasion
  callback := subscription.callback
  seen := payload
  nodeId := (payload.lookup "node_id").getD .null
  result := (subscription.callback.react payload).result

end Subscription

namespace Registry

/-! ## Registries -/

/-- A registry that was made by registering callbacks and taking some away. -/
inductive IsMade : Registry → Prop where
  /-- none so far -/
  | empty : IsMade empty
  /-- one more -/
  | registered {registry registry' : Registry} {name : String} {callback : Callback}
      {scope : Option (List String)} (h : IsMade registry)
      (hr : registry.registerNamed name callback scope = .ok registry') : IsMade registry'
  /-- one less -/
  | unregistered {registry : Registry} (h : IsMade registry) (name callback : String) :
      IsMade (registry.unregister name callback)
  /-- those for an occasion, or all, taken away -/
  | cleared {registry : Registry} (h : IsMade registry) (name : Option String) :
      IsMade (registry.clear name)

variable {registry : Registry} {subscription : Subscription} {notice : Notice}

/-- An occasion is told by its name. -/
theorem IsMade.register (h : registry.IsMade) (occasion : Occasion) (callback : Callback)
    (scope : Option (List String)) : (registry.register occasion callback scope).IsMade :=
  .registered h (by rw [registerNamed, Occasion.ofName?_name])

/-- Only callbacks for occasions about nodes are limited to some of them. -/
theorem IsMade.scope_eq_none (h : registry.IsMade) :
    ∀ subscription ∈ registry.subscriptions, subscription.occasion.isAboutNode = false →
      subscription.scope = none := by
  induction h with
  | empty => exact fun _ hmem => absurd hmem List.not_mem_nil
  | @registered registry registry' name callback scope h hr ih =>
    intro subscription hmem hnode
    rcases ho : Occasion.ofName? name with _ | occasion
    · simp [registerNamed, ho] at hr
    · simp only [registerNamed, ho, Except.ok.injEq] at hr
      subst hr
      rcases List.mem_append.1 hmem with hmem | hmem
      · exact ih subscription hmem hnode
      · obtain rfl := List.mem_singleton.1 hmem
        exact if_neg (by simpa using hnode)
  | unregistered h name callback ih =>
    exact fun subscription hmem => ih subscription (List.mem_filter.1 hmem).1
  | cleared h name ih =>
    cases name with
    | none => exact fun _ hmem => absurd hmem List.not_mem_nil
    | some name => exact fun subscription hmem => ih subscription (List.mem_filter.1 hmem).1

/-! ## Calls -/

/-- What a run tells names the type of a node as a text, if it names one. -/
theorem accepts_payload (subscription : Subscription) (notice : Notice) :
    accepts subscription notice.payload = .ok (subscription.covers notice.kind?) := by
  have htype : (notice.payload.lookup "node_type").getD .null
      = Value.ofText? (notice.kind?.map NodeKind.name) := by
    cases notice <;> rfl
  rw [accepts, htype, Subscription.covers]
  rcases subscription.scope with _ | types
  · rfl
  · rcases notice.kind? with _ | kind <;> rfl

/-- The callbacks whose scope the notice is in are given what it tells, one after the
other. -/
theorem deliver_payload (notice : Notice) {subscriptions : List Subscription}
    (hk : ∀ subscription ∈ subscriptions, subscription.callback.KeepsPayload) :
    deliver subscriptions notice.payload
      = ((subscriptions.filter (·.covers notice.kind?)).map (·.delivery notice.payload),
        none) := by
  induction subscriptions with
  | nil => rfl
  | cons subscription rest ih =>
    have hrest := ih fun other hother => hk other (List.mem_cons_of_mem _ hother)
    rw [deliver, accepts_payload]
    rcases hcovers : subscription.covers notice.kind? with _ | _
    · rw [List.filter_cons_of_neg (by simp [hcovers])]
      exact hrest
    · rw [List.filter_cons_of_pos (by simp [hcovers])]
      simp only [hk subscription List.mem_cons_self notice.payload, hrest]
      rfl

/-- In a registry that was made, a notice is heard by those who are there for its occasion
and whose scope it is in. -/
theorem IsMade.hears_eq (hm : registry.IsMade) (notice : Notice)
    (hmem : subscription ∈ registry.subscriptions) :
    subscription.hears notice
      = (subscription.covers notice.kind? && isFor notice.occasion.name subscription) := by
  by_cases ho : subscription.occasion = notice.occasion
  · by_cases hnode : notice.occasion.isAboutNode = true
    · simp [isFor, Subscription.hears, ho, hnode]
    · -- a callback for the run as a whole has no scope
      rw [Bool.not_eq_true] at hnode
      have hscope := hm.scope_eq_none subscription hmem (ho ▸ hnode)
      simp [isFor, Subscription.hears, Subscription.covers, ho, hnode, hscope]
  · have hname : subscription.occasion.name ≠ notice.occasion.name :=
      fun h => ho (Occasion.name_inj h)
    simp [isFor, Subscription.hears, beq_eq_false_iff_ne.2 ho, beq_eq_false_iff_ne.2 hname]

/-- A notice is given to those who hear it. -/
theorem emit_payload (hm : registry.IsMade)
    (hk : ∀ subscription ∈ registry.subscriptions, subscription.callback.KeepsPayload)
    (notice : Notice) :
    registry.emit notice.occasion.name notice.payload
      = ((registry.subscriptions.filter (·.hears notice)).map (·.delivery notice.payload),
        none) := by
  have hfor : ∀ subscription ∈ registry.subscriptionsFor notice.occasion.name,
      subscription.callback.KeepsPayload :=
    fun subscription hmem => hk subscription (List.mem_filter.1 hmem).1
  have hhears : (registry.subscriptionsFor notice.occasion.name).filter (·.covers notice.kind?)
      = registry.subscriptions.filter (·.hears notice) := by
    rw [subscriptionsFor, List.filter_filter]
    exact List.filter_congr fun subscription hmem => (hm.hears_eq notice hmem).symm
  rw [emit, deliver_payload notice hfor, hhears]

/-- Notices are given one after the other to those who hear them. -/
theorem emitAll_eq (hm : registry.IsMade)
    (hk : ∀ subscription ∈ registry.subscriptions, subscription.callback.KeepsPayload)
    (notices : List Notice) :
    registry.emitAll notices
      = (notices.flatMap fun notice =>
          (registry.subscriptions.filter (·.hears notice)).map (·.delivery notice.payload),
        none) := by
  induction notices with
  | nil => rfl
  | cons notice rest ih =>
    rw [emitAll, emit_payload hm hk, ih, List.flatMap_cons]

end Registry

end FormAutomation
