import FormAutomation.Payload.Load
import FormAutomation.Payload.Save

/-!
# Saved graphs are read back

What is saved is read back as it was, down to the kind of every value.  The schema reads
each field under the name that it was written under, and a field that was left out is one
that may be left out, with the value it had.  Migration, which looks at every payload
before the schema does, finds nothing to do: a saved payload has no older names, no
request blocks, and method names in capitals.

The two are proved apart, field by field and entry by entry, and joined at the end.
-/

namespace FormAutomation

/-! ## Entries that are there -/

/-- Setting a name to the value that it has changes nothing. -/
theorem Entries.put_of_lookup {α : Type} {entries : Entries α} {name : String} {a : α}
    (h : entries.lookup name = some a) : entries.put name a = entries := by
  induction entries with
  | nil => cases h
  | cons entry rest ih =>
    rw [Entries.lookup_cons] at h
    by_cases hname : entry.1 = name
    · rw [if_pos hname.symm] at h
      rw [Entries.put, if_pos hname, ← hname, ← Option.some.inj h]
    · rw [if_neg (Ne.symm hname)] at h
      rw [Entries.put, if_neg hname, ih h]

theorem lookup_presentFields_eq_none {fields : List (String × Option Value)} {name : String}
    (h : name ∉ fields.map (·.1)) : (presentFields fields).lookup name = none := by
  induction fields with
  | nil => rfl
  | cons field rest ih =>
    simp only [List.map_cons, List.mem_cons, not_or] at h
    obtain ⟨fieldName, _ | v⟩ := field
    · exact ih h.2
    · change List.lookup name ((fieldName, v) :: presentFields rest) = none
      rw [Entries.lookup_cons, if_neg h.1, ih h.2]

/-- Under distinct names every field is as it was given. -/
theorem lookup_presentFields {fields : List (String × Option Value)}
    (h : (fields.map (·.1)).Nodup) {name : String} {v? : Option Value}
    (hmem : (name, v?) ∈ fields) : (presentFields fields).lookup name = v? := by
  induction fields with
  | nil => cases hmem
  | cons field rest ih =>
    obtain ⟨hfirst, hrest⟩ := List.nodup_cons.1 h
    rcases List.mem_cons.1 hmem with rfl | hlater
    · cases v? with
      | none =>
        change (presentFields rest).lookup name = none
        exact lookup_presentFields_eq_none hfirst
      | some v => exact List.lookup_cons_self
    · have hne : name ≠ field.1 := by
        rintro rfl
        exact hfirst (List.mem_map_of_mem (f := (·.1)) hlater)
      obtain ⟨fieldName, _ | v⟩ := field
      · exact ih hrest hlater
      · change List.lookup name ((fieldName, v) :: presentFields rest) = v?
        rw [Entries.lookup_cons, if_neg hne, ih hrest hlater]

theorem mem_of_lookup_presentFields {fields : List (String × Option Value)} {name : String}
    {v : Value} (h : (presentFields fields).lookup name = some v) : (name, some v) ∈ fields := by
  obtain ⟨front, back, hmem, -⟩ := List.lookup_eq_some_iff.1 h
  have hpresent : (name, v) ∈ presentFields fields := by simp [hmem]
  obtain ⟨⟨fieldName, v?⟩, hfield, hv⟩ := List.mem_filterMap.1 hpresent
  obtain ⟨v', rfl, hpair⟩ := Option.map_eq_some_iff.1 hv
  obtain ⟨rfl, rfl⟩ := Prod.mk.inj hpair
  exact hfield

theorem Action.nodup_fields (action : Action) : (action.fields.map (·.1)).Nodup := by
  cases action <;> simp [Action.fields, Endpoint.fields, OptionSource.fields]

namespace Payload

namespace Schema

open Checked

/-! ## Fields -/

variable {α β : Type} {config : Entries Value} {location : List String} {key : Key} {v : Value}

theorem find_of_lookup (h : config.lookup key.written = some v) :
    find config key = (key.written, some v) := by
  simp [find, h]

theorem required_of_lookup {read : Reader α} (h : config.lookup key.written = some v) :
    required config location key read = read (location ++ [key.written]) v := by
  simp [required, find_of_lookup h]

theorem optional_of_lookup {read : Reader α} {default : α}
    (h : config.lookup key.written = some v) :
    optional config location key default read = read (location ++ [key.written]) v := by
  simp [optional, find_of_lookup h]

theorem optional_of_lookup_none {read : Reader α} {default : α}
    (hw : config.lookup key.written = none) (ho : config.lookup key.other = none) :
    optional config location key default read = .ok default := by
  simp [optional, find, hw, ho]

/-- A reader gives back what was written. -/
def Restores (write : α → Value) (result : α → β) (read : Reader β) : Prop :=
  ∀ location a, read location (write a) = .ok (result a)

theorem Restores.optional_some {write : α → Value} {read : Reader α} (h : Restores write id read)
    {a default : α} (hw : config.lookup key.written = some (write a)) :
    optional config location key default read = .ok a :=
  (optional_of_lookup hw).trans (h _ a)

/-- What was left out is read as none. -/
theorem Restores.optional_map {write : α → Value} {read : Reader (Option α)}
    (h : Restores write some read) {a? : Option α}
    (hw : config.lookup key.written = a?.map write)
    (ho : key.other = key.written ∨ config.lookup key.other = none) :
    optional config location key none read = .ok a? := by
  cases a? with
  | none =>
    refine optional_of_lookup_none hw ?_
    rcases ho with ho | ho
    · rw [ho]
      exact hw
    · exact ho
  | some a => exact (optional_of_lookup hw).trans (h _ a)

/-! ## Values -/

theorem restores_text : Restores .text id text :=
  fun _ _ => rfl

theorem restores_truth : Restores .bool id truth :=
  fun _ _ => rfl

theorem restores_scalar : Restores Scalar.toValue some scalar := by
  intro location value
  cases value <;> rfl

/-- A name stands for what has it. -/
theorem restores_choice {name : α → String} {options : List α}
    (h : ∀ a, options.find? (name · == name a) = some a) :
    Restores (fun a => .text (name a)) id (choice name options) := by
  intro location a
  simp [choice, h a]

theorem Restores.nullable {write : α → Value} {read : Reader α} (h : Restores write id read)
    (hnull : ∀ a, write a ≠ .null) : Restores write some (nullable read) := by
  intro location a
  have hread := h location a
  unfold Schema.nullable
  split
  · next hwrite => exact absurd hwrite (hnull a)
  · rw [hread]
    rfl

theorem all_map {γ : Type} {read : Nat → γ → Checked α} {write : α → γ} {items : List α}
    (h : ∀ index, ∀ a ∈ items, read index (write a) = .ok a) (index : Nat) :
    all read index (items.map write) = .ok items := by
  induction items generalizing index with
  | nil => rfl
  | cons a rest ih =>
    rw [List.map_cons, all, h index a List.mem_cons_self,
      ih (fun index b hb => h index b (List.mem_cons_of_mem a hb))]

theorem Restores.listOf {write : α → Value} {read : Reader α} (h : Restores write id read) :
    Restores (fun items => .list (items.map write)) id (listOf read) :=
  fun _ _ => all_map (fun _ a _ => h _ a) 0

theorem restores_texts :
    Restores (fun headers : Entries String => .object (headers.map fun (name, s) => (name, .text s)))
      id texts := by
  intro location headers
  refine all_map (fun index entry _ => ?_) 0
  rfl

/-! ## Configurations -/

theorem restores_name : Restores .text some (nullable text) :=
  restores_text.nullable nofun

/-- The record has these fields and leaves out what is none. -/
def Holds (record : Entries Value) (fields : List (String × Option Value)) : Prop :=
  ∀ field ∈ fields, record.lookup field.1 = field.2

theorem endpoint_of_holds {request : Endpoint}
    (h : Holds config request.fields) (hbody : config.lookup "body_template" = none) :
    endpoint location config = .ok request := by
  simp only [Holds, Endpoint.fields, List.forall_mem_cons] at h
  obtain ⟨hurl, hmethod, hheaders, htemplate, -⟩ := h
  rw [endpoint, restores_name.optional_map hurl (.inl rfl),
    (restores_choice Method.ofName?_name).optional_some hmethod,
    restores_texts.optional_some hheaders, restores_name.optional_map htemplate (.inr hbody)]
  rfl

theorem optionSource_of_holds {source : OptionSource}
    (h : Holds config source.fields) (hpath : config.lookup "response_path" = none)
    (hfield : config.lookup "target_field_id" = none) :
    optionSource location config = .ok source := by
  simp only [Holds, OptionSource.fields, List.forall_mem_cons] at h
  obtain ⟨hresponse, hlabel, hvalue, htarget, -⟩ := h
  rw [optionSource, restores_name.optional_map hresponse (.inr hpath),
    restores_text.optional_some hlabel, restores_text.optional_some hvalue,
    restores_name.optional_map htarget (.inr hfield)]
  rfl

theorem restores_assignment :
    Restores Assignment.toPayload id (record "DataMappingEntry" assignment) := by
  intro location entry
  change assignment location _ = _
  rw [assignment, restores_text.optional_some (a := entry.source) rfl,
    restores_text.optional_some (a := entry.target) rfl]
  rfl

/-- A configuration that was saved is read back. -/
theorem action_presentFields (saved : Action) (location : List String) :
    action saved.kind location (presentFields saved.fields) = .ok saved := by
  have hholds : Holds (presentFields saved.fields) saved.fields :=
    fun _ => lookup_presentFields saved.nodup_fields
  have hother : ∀ name, name ∉ saved.fields.map (·.1) →
      (presentFields saved.fields).lookup name = none :=
    fun name => lookup_presentFields_eq_none
  -- the schema asks for these names alone, so it need not be known how the fields are listed
  generalize presentFields saved.fields = config at hholds hother
  cases saved with
  | trigger event field =>
    simp only [Holds, Action.fields, List.forall_mem_cons] at hholds
    obtain ⟨hevent, hfield, -⟩ := hholds
    have hkind := (restores_choice EventKind.ofName?_name).nullable nofun
    rw [textValue?, Option.map_map] at hevent
    change (both (optional config location _ none _) (optional config location _ none _)).map _ = _
    rw [hkind.optional_map hevent (.inr (hother _ (by simp [Action.fields]))),
      restores_name.optional_map hfield (.inr (hother _ (by simp [Action.fields])))]
    rfl
  | page page =>
    simp only [Holds, Action.fields, List.forall_mem_cons] at hholds
    change (optional config location _ none _).map _ = _
    rw [restores_name.optional_map hholds.1 (.inr (hother _ (by simp [Action.fields])))]
    rfl
  | callApi request =>
    change (endpoint location config).map _ = _
    rw [endpoint_of_holds hholds (hother _ (by simp [Action.fields, Endpoint.fields]))]
    rfl
  | fetchOptions request source =>
    obtain ⟨hrequest, hsource⟩ := List.forall_mem_append.1 hholds
    have hnames : ∀ name ∈ ["body_template", "response_path", "target_field_id"],
        config.lookup name = none := by
      intro name hname
      refine hother name ?_
      revert name
      simp [Action.fields, Endpoint.fields, OptionSource.fields]
    change (both (endpoint location config) (optionSource location config)).map _ = _
    rw [endpoint_of_holds hrequest (hnames _ (by simp)),
      optionSource_of_holds hsource (hnames _ (by simp)) (hnames _ (by simp))]
    rfl
  | setData mapping =>
    simp only [Holds, Action.fields, List.forall_mem_cons] at hholds
    change (optional config location _ [] _).map _ = _
    rw [restores_assignment.listOf.optional_some hholds.1]
    rfl
  | showDialog title message =>
    simp only [Holds, Action.fields, List.forall_mem_cons] at hholds
    obtain ⟨htitle, hmessage, -⟩ := hholds
    change (both (optional config location _ none _) (optional config location _ none _)).map _ = _
    rw [restores_name.optional_map htitle (.inl rfl), restores_name.optional_map hmessage (.inl rfl)]
    rfl
  | redirect url newTab =>
    simp only [Holds, Action.fields, List.forall_mem_cons] at hholds
    obtain ⟨hurl, htab, -⟩ := hholds
    change (both (optional config location _ none _) (optional config location _ false _)).map _ = _
    rw [restores_name.optional_map hurl (.inl rfl), restores_truth.optional_some htab]
    rfl
  | condition field operator value =>
    simp only [Holds, Action.fields, List.forall_mem_cons] at hholds
    obtain ⟨hfield, hoperator, hvalue, -⟩ := hholds
    have hname := (restores_choice Condition.Operator.ofName?_name).nullable nofun
    rw [textValue?, Option.map_map] at hoperator
    change (both (optional config location _ none _) (both (optional config location _ none _)
      (optional config location _ none _))).map _ = _
    rw [restores_name.optional_map hfield (.inl rfl), hname.optional_map hoperator (.inl rfl),
      restores_scalar.optional_map hvalue (.inl rfl)]
    rfl

/-! ## Nodes, edges and graphs -/

theorem identifier_text {id : String} (h : id ≠ "") :
    identifier location (.text id) = .ok ⟨id, h⟩ :=
  dif_pos h

theorem restores_node : Restores Node.toPayload id node := by
  intro location saved
  have htype : NodeKind.ofName? saved.kind.name = some saved.kind := NodeKind.ofName?_name _
  have hread : node location saved.toPayload
      = nodeOfKind saved.kind (location ++ [saved.kind.name])
        [("id", .text saved.id), ("label", .text saved.label), ("type", .text saved.kind.name),
          ("config", .object (presentFields saved.action.fields))] := by
    simp [node, Node.toPayload, Entries.lookup_cons, htype]
  rw [hread, nodeOfKind, required_of_lookup (v := .text saved.id) rfl, identifier_text saved.id_ne,
    restores_text.optional_some (a := saved.label) rfl,
    required_of_lookup (v := .object (presentFields saved.action.fields)) rfl]
  change (both _ (both _ (action saved.action.kind _ _))).map _ = _
  rw [action_presentFields]
  rfl

theorem restores_edge : Restores Edge.toPayload id (record "WorkflowEdge" edge) := by
  intro location saved
  change edge location _ = _
  rw [edge, required_of_lookup (v := .text saved.id) rfl, identifier_text saved.id_ne,
    required_of_lookup (v := .text saved.source) rfl,
    (restores_choice Port.ofName?_name).optional_some (a := saved.port) rfl,
    required_of_lookup (v := .text saved.target) rfl]
  rfl

theorem parts_of_lookup {fields : Entries Value} (saved : Graph)
    (hid : fields.lookup "id" = some (.text saved.id))
    (hnodes : fields.lookup "nodes" = some (.list (saved.nodes.map Node.toPayload)))
    (hedges : fields.lookup "edges" = some (.list (saved.edges.map Edge.toPayload))) :
    parts fields = .ok ⟨saved.id, saved.nodes, saved.edges⟩ := by
  rw [parts, restores_text.optional_some hid, restores_node.listOf.optional_some hnodes,
    restores_edge.listOf.optional_some hedges]
  rfl

theorem assemble_parts (saved : Graph) :
    assemble ⟨saved.id, saved.nodes, saved.edges⟩ = .ok saved :=
  dif_pos saved.distinct

theorem graph_fields (saved : Graph) : graph saved.fields = .ok saved := by
  rw [graph, parts_of_lookup saved rfl rfl rfl]
  exact assemble_parts saved

theorem workflow_fields (saved : Workflow) :
    workflow (saved.fields ++ [("name", .text saved.name), ("enabled", .bool saved.enabled)])
      = .ok saved := by
  rw [workflow, parts_of_lookup saved.toGraph rfl rfl rfl,
    restores_text.optional_some (a := saved.name) rfl,
    restores_truth.optional_some (a := saved.enabled) rfl]
  change (assemble ⟨saved.id, saved.nodes, saved.edges⟩).bind _ = _
  rw [assemble_parts]
  rfl

end Schema

/-! ## Migration of what is in its present shape -/

namespace Migration

theorem renameAll_of_absent {node : String} {config : Entries Value} :
    ∀ {renamings : List (String × String)}, (∀ pair ∈ renamings, config.lookup pair.1 = none) →
      renameAll node renamings config = (config, [])
  | [], _ => rfl
  | (older, present) :: rest, h => by
    have hfirst : rename node config older present = (config, []) := by
      simp [rename, h (older, present) List.mem_cons_self]
    have hrest : renameAll node rest config = (config, []) :=
      renameAll_of_absent fun pair hpair => h pair (List.mem_cons_of_mem _ hpair)
    simp [renameAll, hfirst, hrest]

theorem flatten_of_absent {node : String} {type : Value} {config : Entries Value}
    (h : config.lookup "api" = none) : flatten node type config = (config, []) := by
  simp [flatten, h]

theorem raiseMethod_of_capitals {config : Entries Value}
    (h : ∀ name, config.lookup "method" = some (.text name) → Text.upper name = name) :
    raiseMethod config = config := by
  unfold raiseMethod
  split
  · next name hname =>
    rw [h name hname]
    exact Entries.put_of_lookup hname
  · rfl

theorem upper_name (method : Method) : Text.upper method.name = method.name := by
  cases method <;> rfl

/-- What a saved configuration says about a method is in capitals. -/
theorem upper_of_mem_fields {saved : Action} {name : String}
    (h : ("method", some (Value.text name)) ∈ saved.fields) : Text.upper name = name := by
  have hmethod : ∃ method : Method, name = method.name := by
    cases saved with
    | callApi request =>
      exact ⟨request.method, by simpa [Action.fields, Endpoint.fields] using h⟩
    | fetchOptions request source =>
      exact ⟨request.method, by
        simpa [Action.fields, Endpoint.fields, OptionSource.fields] using h⟩
    | _ => simp [Action.fields] at h
  obtain ⟨method, rfl⟩ := hmethod
  exact upper_name method

/-- A configuration that was saved is left as it is. -/
theorem config_presentFields (node : String) (saved : Action) :
    config node (.text saved.kind.name) (presentFields saved.fields)
      = (presentFields saved.fields, []) := by
  have hflat : flatten node (.text saved.kind.name) (presentFields saved.fields)
      = (presentFields saved.fields, []) := by
    refine flatten_of_absent (lookup_presentFields_eq_none ?_)
    cases saved <;> simp [Action.fields, Endpoint.fields, OptionSource.fields]
  have hrename : renameAll node (renamings (.text saved.kind.name)) (presentFields saved.fields)
      = (presentFields saved.fields, []) := by
    refine renameAll_of_absent fun pair hpair => lookup_presentFields_eq_none ?_
    revert pair
    cases saved <;> simp [renamings, NodeKind.ofName?_name, Action.kind, Action.fields,
      Endpoint.fields, OptionSource.fields]
  have hmethod : raiseMethod (presentFields saved.fields) = presentFields saved.fields :=
    raiseMethod_of_capitals fun name hname => upper_of_mem_fields (mem_of_lookup_presentFields hname)
  simp [config, hflat, hrename, hmethod]

theorem node_toPayload (saved : Node) : node saved.toPayload = .ok (saved.toPayload, []) := by
  simp [node, Node.toPayload, Entries.lookup_cons, objectFields, Node.kind, config_presentFields,
    Entries.put]

theorem nodes_map_toPayload (saved : List Node) :
    nodes (saved.map Node.toPayload) = .ok (saved.map Node.toPayload, []) := by
  induction saved with
  | nil => rfl
  | cons first rest ih =>
    rw [List.map_cons, nodes, node_toPayload, ih]
    rfl

/-- A payload whose nodes were saved, and which has edges, is left as it is. -/
theorem payload_of_lookup {fields : Entries Value} (saved : List Node)
    (hnodes : fields.lookup "nodes" = some (.list (saved.map Node.toPayload)))
    (hedges : fields.has "edges" = true) : payload fields = .ok (fields, []) := by
  simp only [payload, hnodes, nodes_map_toPayload]
  change Except.ok (if (fields.put "nodes" _).has "edges" = true then _ else _, _) = _
  rw [Entries.put_of_lookup hnodes, if_pos hedges]

end Migration

/-! ## Loading what was saved -/

variable {α : Type} {schema : Entries Value → Checked α} {fields : Entries Value} {a : α}

theorem loadBy_of_present (hp : Migration.payload fields = .ok (fields, []))
    (hs : schema fields = .ok a) : loadBy schema (.object fields) = .ok a := by
  simp [loadBy, value, bind, Except.bind, hp, hs]

theorem loadGraph_saved (saved : Graph) : loadGraph saved.toPayload = .ok saved :=
  loadBy_of_present (Migration.payload_of_lookup saved.nodes rfl rfl)
    (Schema.graph_fields saved)

theorem loadWorkflow_saved (saved : Workflow) : loadWorkflow saved.toPayload = .ok saved :=
  loadBy_of_present (Migration.payload_of_lookup saved.nodes rfl rfl)
    (Schema.workflow_fields saved)

/-- Whatever is loaded, saving it and loading it again gives the same once more. -/
theorem load_toPayload :
    (∀ saved : Graph, loadGraph saved.toPayload = .ok saved)
      ∧ (∀ saved : Workflow, loadWorkflow saved.toPayload = .ok saved)
      ∧ (∀ payload, (loadGraph payload).bind (fun graph => loadGraph graph.toPayload)
        = loadGraph payload)
      ∧ ∀ payload, (loadWorkflow payload).bind (fun workflow => loadWorkflow workflow.toPayload)
        = loadWorkflow payload := by
  refine ⟨loadGraph_saved, loadWorkflow_saved, fun payload => ?_, fun payload => ?_⟩
  · cases loadGraph payload with
    | error fault => rfl
    | ok graph => exact loadGraph_saved graph
  · cases loadWorkflow payload with
    | error fault => rfl
    | ok workflow => exact loadWorkflow_saved workflow

end Payload

end FormAutomation
