import FormAutomation.Payload.Load
import FormAutomation.Proofs.Payload.Blame

/-!
# How loading ends

A payload that cannot be loaded is refused, and the refusal says why: the text holds no
JSON, the payload is no object, or these places of it do not fit.  The places are named
from the top, and there is at least one of them; so it does not matter what stands where
something else was expected.

There is one exception.  Migration looks at the type of a node before anybody has made
sure that it is a text, and a list or an object cannot be looked up among the known types.
Loading fails then, but not as a refusal.
-/

namespace FormAutomation.Payload

/-! ## What is wrong with a payload -/

/-- Whether the fault is told as a refusal of the payload.  The other kind comes from
looking up a type. -/
def Fault.isRefusal : Fault → Bool
  | .migration _ => false
  | _ => true

/-- The entries of a value that is an object. -/
def entries? : Value → Option (Entries Value)
  | .object fields => some fields
  | _ => none

theorem eq_object_of_entries? {v : Value} {fields : Entries Value} (h : entries? v = some fields) :
    v = .object fields := by
  cases v with
  | object entries => exact congrArg Value.object (Option.some.inj h)
  | _ => cases h

/-- The objects among the nodes of a payload. -/
def records (payload : Value) : List (Entries Value) :=
  match value payload with
  | .ok (.object fields) =>
    match fields.lookup "nodes" with
    | some (.list items) => items.filterMap entries?
    | _ => []
  | _ => []

/-- What looking up the type of a node fails with. -/
def recordFault? (fields : Entries Value) : Option Migration.Fault :=
  match fields.lookup "type" with
  | some (.list _) => some .listType
  | some (.object _) => some .objectType
  | _ => none

/-- What looking up the types of a payload's nodes fails with, one after the other. -/
def typeFault? (payload : Value) : Option Migration.Fault :=
  (records payload).findSome? recordFault?

/-- The fault is one that the payload has. -/
def Fault.IsDue (names : List String) (payload : Value) : Fault → Prop
  | .notJson fault text => payload = .text text ∧ Json.parse text = .error fault
  | .notObject => ∃ v, value payload = .ok v ∧ entries? v = none
  | .migration fault => typeFault? payload = some fault
  | .refused complaints =>
    complaints ≠ [] ∧ ∀ complaint ∈ complaints, complaint.IsAbout names

/-- How the loading of a payload whose fields have these names ends. -/
structure EndsWell {α : Type} (names : List String) (payload : Value)
    (result : Except Fault α) : Prop where
  /-- something is loaded or the payload is refused, if every type can be looked up -/
  refused : typeFault? payload = none →
    (∃ a, result = .ok a) ∨ ∃ fault, result = .error fault ∧ fault.isRefusal = true
  /-- otherwise the first type that cannot is what loading fails with -/
  unrefused : ∀ fault, typeFault? payload = some fault → result = .error (.migration fault)
  /-- it does not fail with anything that the payload does not have -/
  due : ∀ fault, result = .error fault → fault.IsDue names payload

/-! ## Types that cannot be looked up -/

namespace Migration

/-- A node whose type cannot be looked up. -/
theorem node_of_recordFault {v : Value} {fields : Entries Value} {fault : Fault}
    (hv : entries? v = some fields) (hf : recordFault? fields = some fault) :
    node v = .error fault := by
  cases v with
  | object fields' =>
    obtain rfl := Option.some.inj hv
    unfold recordFault? at hf
    split at hf
    · next htype =>
      obtain rfl := Option.some.inj hf
      simp [node, htype]
    · next htype =>
      obtain rfl := Option.some.inj hf
      simp [node, htype]
    · cases hf
  | _ => cases hv

/-- Any other object gets a migrated configuration. -/
theorem node_of_recordFault_eq_none {fields : Entries Value} (h : recordFault? fields = none) :
    node (.object fields)
      = .ok (.object (Entries.put fields "config" (.object (config (nodeName fields)
          ((fields.lookup "type").getD .null) (objectFields (fields.lookup "config"))).1)),
        (config (nodeName fields) ((fields.lookup "type").getD .null)
          (objectFields (fields.lookup "config"))).2) := by
  unfold recordFault? at h
  unfold node
  dsimp only
  rcases htype : fields.lookup "type" with _ | type
  · rfl
  · rw [htype] at h
    cases type with
    | list items => cases h
    | object entries => cases h
    | _ => rfl

/-- A node whose type can be looked up can be migrated. -/
theorem exists_node {v : Value} (h : ∀ fields, entries? v = some fields → recordFault? fields = none) :
    ∃ migrated, node v = .ok migrated := by
  cases v with
  | object fields => exact ⟨_, node_of_recordFault_eq_none (h fields rfl)⟩
  | _ => exact ⟨_, rfl⟩

/-- The first node whose type cannot be looked up is what migration fails with. -/
theorem nodes_of_findSome? {items : List Value} {fault : Fault}
    (h : (items.filterMap entries?).findSome? recordFault? = some fault) :
    nodes items = .error fault := by
  induction items with
  | nil => cases h
  | cons v rest ih =>
    rcases hv : entries? v with _ | fields
    · rw [List.filterMap_cons_none hv] at h
      obtain ⟨migrated, hnode⟩ := exists_node (v := v) (by simp [hv])
      simp [nodes, hnode, ih h, bind, Except.bind]
    · rw [List.filterMap_cons_some hv, List.findSome?_cons] at h
      rcases hf : recordFault? fields with _ | first
      · rw [hf] at h
        obtain ⟨migrated, hnode⟩ := exists_node (v := v) (by simp [hv, hf])
        simp [nodes, hnode, ih h, bind, Except.bind]
      · rw [hf] at h
        obtain rfl := Option.some.inj h
        simp [nodes, node_of_recordFault hv hf, bind, Except.bind]

/-- Where every type can be looked up, all nodes are migrated. -/
theorem exists_nodes {items : List Value}
    (h : (items.filterMap entries?).findSome? recordFault? = none) :
    ∃ migrated, nodes items = .ok migrated := by
  induction items with
  | nil => exact ⟨_, rfl⟩
  | cons v rest ih =>
    have hall : ∀ fields ∈ (v :: rest).filterMap entries?, recordFault? fields = none :=
      List.findSome?_eq_none_iff.1 h
    obtain ⟨first, hfirst⟩ := exists_node (v := v) fun fields hv =>
      hall fields (List.mem_filterMap.2 ⟨v, List.mem_cons_self, hv⟩)
    obtain ⟨others, hothers⟩ := ih (List.findSome?_eq_none_iff.2 fun fields hfields =>
      hall fields (by
        obtain ⟨w, hw, he⟩ := List.mem_filterMap.1 hfields
        exact List.mem_filterMap.2 ⟨w, List.mem_cons_of_mem _ hw, he⟩))
    exact ⟨(first.1 :: others.1, first.2 ++ others.2), by
      simp only [nodes, hfirst, hothers, bind, Except.bind]⟩

end Migration

/-- A payload without a list of nodes is not migrated. -/
theorem payload_of_unlisted {fields : Entries Value}
    (h : ∀ items, fields.lookup "nodes" ≠ some (.list items)) :
    Migration.payload fields = .ok (fields, []) := by
  unfold Migration.payload
  split
  · next items hitems => exact absurd hitems (h items)
  · rfl

theorem payload_of_typeFault {payload : Value} {fields : Entries Value} {fault : Migration.Fault}
    (hp : value payload = .ok (.object fields)) (hf : typeFault? payload = some fault) :
    Migration.payload fields = .error fault := by
  simp only [typeFault?, records, hp] at hf
  rcases hnodes : fields.lookup "nodes" with _ | v
  · simp [hnodes] at hf
  cases v with
  | list items =>
    rw [hnodes] at hf
    simp only [Migration.payload, hnodes, Migration.nodes_of_findSome? hf, bind, Except.bind]
  | _ => simp [hnodes] at hf

theorem exists_payload {payload : Value} {fields : Entries Value}
    (hp : value payload = .ok (.object fields)) (hf : typeFault? payload = none) :
    ∃ migrated, Migration.payload fields = .ok migrated := by
  simp only [typeFault?, records, hp] at hf
  by_cases hlist : ∃ items, fields.lookup "nodes" = some (.list items)
  · obtain ⟨items, hnodes⟩ := hlist
    rw [hnodes] at hf
    obtain ⟨migrated, hmigrated⟩ := Migration.exists_nodes hf
    simp only [Migration.payload, hnodes, hmigrated, bind, Except.bind]
    exact ⟨_, rfl⟩
  · exact ⟨_, payload_of_unlisted (not_exists.1 hlist)⟩

/-! ## Loading -/

section

variable {α : Type} {names : List String} {schema : Entries Value → Checked α} {payload : Value}
  {fields : Entries Value}

/-- A refusal for something that the payload has. -/
theorem endsWell_refusal {fault : Fault} (hr : fault.isRefusal = true)
    (ht : typeFault? payload = none) (hd : fault.IsDue names payload) :
    EndsWell names payload (.error fault : Except Fault α) where
  refused := fun _ => .inr ⟨fault, rfl, hr⟩
  unrefused := by
    intro other hother
    rw [ht] at hother
    cases hother
  due := by
    intro other hother
    obtain rfl := Except.error.inj hother
    exact hd

/-- Only the nodes of an object have types to be looked up. -/
theorem typeFault?_eq_none (h : ∀ fields, value payload ≠ .ok (.object fields)) :
    typeFault? payload = none := by
  unfold typeFault? records
  split
  · next fields hp => exact absurd hp (h fields)
  · rfl

/-- What is no JSON is a text. -/
theorem notJson_of_value {fault : Fault} (h : value payload = .error fault) :
    ∃ why text, fault = .notJson why text ∧ payload = .text text
      ∧ Json.parse text = .error why := by
  cases payload with
  | text s =>
    rcases hs : Json.parse s with why | v
    · simp only [value, hs] at h
      exact ⟨why, s, (Except.error.inj h).symm, rfl, hs⟩
    · simp [value, hs] at h
  | _ => cases h

theorem loadBy_of_unmigrated {fault : Migration.Fault} (hp : value payload = .ok (.object fields))
    (hm : Migration.payload fields = .error fault) :
    loadBy schema payload = .error (.migration fault) := by
  simp only [loadBy, hp, hm, bind, Except.bind]

theorem loadBy_of_migrated {migrated : Entries Value} {notes : List Migration.Note}
    (hp : value payload = .ok (.object fields))
    (hm : Migration.payload fields = .ok (migrated, notes)) :
    loadBy schema payload = (schema migrated).mapError .refused := by
  simp only [loadBy, hp, hm, bind, Except.bind]
  rcases schema migrated with complaints | a
  · rfl
  · rfl

theorem loadBy_of_error {fault : Fault} (h : value payload = .error fault) :
    loadBy schema payload = .error fault := by
  simp only [loadBy, h, bind, Except.bind]

theorem loadBy_of_other {v : Value} (h : value payload = .ok v) (hv : entries? v = none) :
    loadBy schema payload = .error .notObject := by
  simp only [loadBy, h, bind, Except.bind]
  cases v with
  | object fields => cases hv
  | _ => rfl

/-- Loading by a schema that complains of fields of these names ends well. -/
theorem endsWell_loadBy
    (hs : ∀ fields, Checked.Blames (Complaint.IsAbout names) (schema fields)) (payload : Value) :
    EndsWell names payload (loadBy schema payload) := by
  rcases hp : value payload with fault | v
  · obtain ⟨why, text, rfl, rfl, hwhy⟩ := notJson_of_value hp
    rw [loadBy_of_error hp]
    exact endsWell_refusal rfl (typeFault?_eq_none (by simp [hp])) ⟨rfl, hwhy⟩
  rcases hv : entries? v with _ | fields
  · rw [loadBy_of_other hp hv]
    refine endsWell_refusal rfl (typeFault?_eq_none fun fields hfields => ?_) ⟨v, hp, hv⟩
    obtain rfl := Except.ok.inj (hp.symm.trans hfields)
    cases hv
  obtain rfl := eq_object_of_entries? hv
  rcases hf : typeFault? payload with _ | fault
  · -- every type can be looked up, so it is the schema that has the last word
    obtain ⟨⟨migrated, notes⟩, hmigrated⟩ := exists_payload hp hf
    rw [loadBy_of_migrated hp hmigrated]
    rcases hschema : schema migrated with complaints | a
    · exact endsWell_refusal rfl hf (hs migrated complaints hschema)
    · exact ⟨fun _ => .inl ⟨a, rfl⟩, fun _ h => by simp [hf] at h, fun _ h => by cases h⟩
  · rw [loadBy_of_unmigrated hp (payload_of_typeFault hp hf)]
    refine ⟨fun h => by simp [hf] at h, fun other hother => ?_, fun other hother => ?_⟩
    · obtain rfl := Option.some.inj (hf.symm.trans hother)
      rfl
    · obtain rfl := Except.error.inj hother
      exact hf

end

/-- Every payload is loaded or refused for what is wrong with it, unless the type of a node
cannot be looked up. -/
theorem endsWell_load (payload : Value) :
    EndsWell Schema.graphNames payload (loadGraph payload)
      ∧ EndsWell Schema.workflowNames payload (loadWorkflow payload) :=
  ⟨endsWell_loadBy (fun _ => Schema.blames_graph) payload,
    endsWell_loadBy (fun _ => Schema.blames_workflow) payload⟩

/-- A node whose type is a list. -/
def unnamedType : Value :=
  .object [("nodes", .list [.object [("id", .text "a"), ("type", .list [])]])]

/-- Loading a node whose type is a list fails, but not as a refusal. -/
theorem unnamedType_ne_refusal :
    ¬ ∀ payload : Value, (∃ graph, loadGraph payload = .ok graph)
      ∨ ∃ fault, loadGraph payload = .error fault ∧ fault.isRefusal = true := by
  intro h
  have hload : loadGraph unnamedType = .error (.migration .listType) := rfl
  obtain ⟨graph, hgraph⟩ | ⟨fault, hfault, hrefusal⟩ := h unnamedType
  · rw [hload] at hgraph
    cases hgraph
  · rw [hload] at hfault
    obtain rfl := Except.error.inj hfault
    cases hrefusal

end FormAutomation.Payload
