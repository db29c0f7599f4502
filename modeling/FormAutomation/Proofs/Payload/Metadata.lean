import FormAutomation.Proofs.Payload.Precedence
import Mathlib.Logic.Relation

/-!
# Entries that nobody asks for

An editor may keep notes of its own in a payload, such as where a node stands on the
screen.  They may stand in any object that has a schema, and under any name that neither the
schema of that object nor migration asks for.  Loading passes them over: with them and
without them it gives the same graph, or refuses the payload for the same reasons.

What names an object is asked for depends on the object.  For a configuration it depends on
the type of the node, and where the type is none that is known there are no such names.
-/

namespace FormAutomation.Payload

open Entries Migration

/-! ## Names that are asked for -/

namespace Schema

open Checked

/-- The names of fields, each in both of its ways. -/
def namesOf (keys : List Key) : List String :=
  keys.flatMap fun key => [key.written, key.other]

/-- The fields of a value to be set. -/
def assignmentKeys : List Key :=
  [⟨"from", "source"⟩, .single "to"]

/-- The fields of an edge. -/
def edgeKeys : List Key :=
  [.single "id", ⟨"sourceNodeId", "source_node_id"⟩, ⟨"sourcePort", "source_port"⟩,
    ⟨"targetNodeId", "target_node_id"⟩]

theorem written_mem_namesOf {keys : List Key} {key : Key} (h : key ∈ keys) :
    key.written ∈ namesOf keys :=
  List.mem_flatMap.2 ⟨key, h, by simp⟩

theorem other_mem_namesOf {keys : List Key} {key : Key} (h : key ∈ keys) :
    key.other ∈ namesOf keys :=
  List.mem_flatMap.2 ⟨key, h, by simp⟩

/-- The names that the configuration of a node of a type is asked for by the schema. -/
def configNames (type : Value) : List String :=
  match type with
  | .text name => ((NodeKind.ofName? name).map fun kind => namesOf (keysOf kind)).getD []
  | _ => []

/-- The schema asks for the names of fields, if it knows the type. -/
theorem mem_configNames_iff {type : Value} {name : String} :
    name ∈ configNames type
      ↔ ∃ kind key, type = .text kind.name ∧ key ∈ keysOf kind
        ∧ (name = key.written ∨ name = key.other) := by
  constructor
  · intro h
    unfold configNames at h
    split at h
    · next word =>
      rcases hkind : NodeKind.ofName? word with _ | kind
      · simp [hkind] at h
      · have hword : kind.name = word := by simpa using List.find?_some hkind
        obtain ⟨key, hkey, hname⟩ : ∃ key ∈ keysOf kind, name ∈ [key.written, key.other] := by
          simpa [hkind, namesOf] using h
        exact ⟨kind, key, by rw [hword], hkey, by simpa using hname⟩
    · cases h
  · rintro ⟨kind, key, rfl, hkey, hname⟩
    rw [configNames, NodeKind.ofName?_name, Option.map_some, Option.getD_some]
    rcases hname with rfl | rfl
    · exact written_mem_namesOf hkey
    · exact other_mem_namesOf hkey

/-- None of them is an older name. -/
theorem not_mem_olderPlaces_of_mem_configNames {type : Value} {name : String}
    (h : name ∈ configNames type) : name ∉ olderPlaces type := by
  obtain ⟨kind, key, rfl, hkey, rfl | rfl⟩ := mem_configNames_iff.1 h
  · exact (not_mem_olderPlaces key hkey).1
  · exact (not_mem_olderPlaces key hkey).2

end Schema

open Schema (Key ReadsAlike FieldsAlike find keysOf nodeNames namesOf assignmentKeys edgeKeys
  configNames graphNames workflowNames)

/-! ## Entries added -/

/-- An object gets one more entry, anywhere, under a name other than these. -/
inductive AddsEntry (asked : List String) : Entries Value → Entries Value → Prop where
  /-- the entry -/
  | intro (before after : Entries Value) {name : String} (v : Value) (h : name ∉ asked) :
      AddsEntry asked (before ++ after) (before ++ (name, v) :: after)

/-- A value that is an object gets one more entry. -/
inductive AddsToObject (asked : List String) : Value → Value → Prop where
  /-- the entry is in its object -/
  | intro {fields fields' : Entries Value} (h : AddsEntry asked fields fields') :
      AddsToObject asked (.object fields) (.object fields')

/-- The configuration of a node of a type gets one more entry. -/
inductive AddsToConfig (type : Value) : Entries Value → Entries Value → Prop where
  /-- it is an entry of the configuration -/
  | config {config config' : Entries Value}
      (h : AddsEntry (configNames type ++ olderPlaces type) config config') :
      AddsToConfig type config config'
  /-- it is an entry of the request block -/
  | block {config block block' : Entries Value} (hcounts : hasRequestBlock type = true)
      (hblock : config.lookup "api" = some (.object block))
      (h : AddsEntry requestKeys block block') :
      AddsToConfig type config (config.put "api" (.object block'))
  /-- it is an entry of a value to be set, which may stand in its older place -/
  | assignment {config config' : Entries Value} {name : String}
      (htype : type = .text NodeKind.setData.name) (hname : name = "mapping" ∨ name = "dataMapping")
      (h : OneListed name (AddsToObject (namesOf assignmentKeys)) config config') :
      AddsToConfig type config config'

/-- A node gets one more entry. -/
inductive AddsToNode : Value → Value → Prop where
  /-- it is an entry of the node -/
  | node {v w : Value} (h : AddsToObject nodeNames v w) : AddsToNode v w
  /-- it is inside its configuration -/
  | config {v w : Value} (h : OneConfig AddsToConfig v w) : AddsToNode v w

/-- A payload whose fields have these names gets one more entry. -/
inductive AddsToPayload (names : List String) : Entries Value → Entries Value → Prop where
  /-- it is an entry at the top -/
  | top {fields fields' : Entries Value} (h : AddsEntry names fields fields') :
      AddsToPayload names fields fields'
  /-- it is inside a node -/
  | node {fields fields' : Entries Value} (h : OneListed "nodes" AddsToNode fields fields') :
      AddsToPayload names fields fields'
  /-- it is an entry of an edge -/
  | edge {fields fields' : Entries Value}
      (h : OneListed "edges" (AddsToObject (namesOf edgeKeys)) fields fields') :
      AddsToPayload names fields fields'

variable {asked names : List String} {type : Value} {config config' fields fields' : Entries Value}

/-- Under the other names there is what there was. -/
theorem AddsEntry.lookup_eq (h : AddsEntry asked fields fields') {name : String}
    (hname : name ∈ asked) : fields.lookup name = fields'.lookup name := by
  cases h with
  | @intro before after added v hadded =>
    have hne : name ≠ added := by
      rintro rfl
      exact hadded hname
    rw [List.lookup_append, List.lookup_append, lookup_cons, if_neg hne]

theorem AddsEntry.find_eq {keys : List Key} (h : AddsEntry (namesOf keys) fields fields') :
    ∀ key ∈ keys, find fields key = find fields' key :=
  fun _ hkey => Schema.find_congr (h.lookup_eq (Schema.written_mem_namesOf hkey))
    (h.lookup_eq (Schema.other_mem_namesOf hkey))

/-! ## Entries passed over -/

/-- An entry of a value to be set is passed over. -/
theorem AddsToObject.readsAlike_assignment {v w : Value}
    (h : AddsToObject (namesOf assignmentKeys) v w) :
    ReadsAlike (Schema.record "DataMappingEntry" Schema.assignment) v w := by
  cases h with
  | @intro fields fields' h =>
    intro location
    have hfind := h.find_eq
    simp only [assignmentKeys, List.forall_mem_cons] at hfind
    simp [Schema.record, Schema.assignment, Schema.optional, hfind]

/-- An entry of an edge is passed over. -/
theorem AddsToObject.readsAlike_edge {v w : Value} (h : AddsToObject (namesOf edgeKeys) v w) :
    ReadsAlike (Schema.record "WorkflowEdge" Schema.edge) v w := by
  cases h with
  | @intro fields fields' h =>
    intro location
    have hfind := h.find_eq
    simp only [edgeKeys, List.forall_mem_cons] at hfind
    simp [Schema.record, Schema.edge, Schema.optional, Schema.required, hfind]

/-- Configurations that say the same under every name that is asked for are alike. -/
theorem configsAlike_of_lookup
    (h : ∀ name ∈ configNames type, config.lookup name = config'.lookup name)
    (hformer : ∀ name, formerValue? type config' name = formerValue? type config name) :
    ConfigsAlike type config config' := by
  rintro kind rfl
  have hsaid : ∀ name ∈ configNames (.text kind.name),
      said (.text kind.name) config name = said (.text kind.name) config' name := by
    intro name hname
    rw [said, said, h name hname, hformer]
  refine configsAlike_of_said (fun key hkey => ⟨hsaid _ ?_, fun _ => hsaid _ ?_⟩) kind rfl
  · exact Schema.mem_configNames_iff.2 ⟨kind, key, rfl, hkey, .inl rfl⟩
  · exact Schema.mem_configNames_iff.2 ⟨kind, key, rfl, hkey, .inr rfl⟩

theorem ConfigsAlike.refl (type : Value) (config : Entries Value) :
    ConfigsAlike type config config :=
  configsAlike_of_lookup (fun _ _ => rfl) fun _ => rfl

/-- What is said of the values to be set: what stands under the present name, or under the
older one. -/
theorem said_mapping (config : Entries Value) :
    said (.text NodeKind.setData.name) config "mapping"
      = (config.lookup "mapping").or (config.lookup "dataMapping") := by
  have hraised : raised "mapping" = id := by
    funext v
    rfl
  rw [said, hraised, Option.map_id]
  rfl

/-- An entry of a value to be set is passed over in the configuration too. -/
theorem configsAlike_of_assignment {name : String} (hname : name = "mapping" ∨ name = "dataMapping")
    (h : OneListed name (AddsToObject (namesOf assignmentKeys)) config config') :
    ConfigsAlike (.text NodeKind.setData.name) config config' := by
  have hread := h.itemsAlike (fun _ _ => rfl) fun _ _ => AddsToObject.readsAlike_assignment
  -- migration moves the list from its older place, and it is alike in either
  have hsaid : ItemsAlike (ReadsAlike (Schema.record "DataMappingEntry" Schema.assignment))
      (said (.text NodeKind.setData.name) config "mapping")
      (said (.text NodeKind.setData.name) config' "mapping") := by
    rw [said_mapping, said_mapping]
    rcases hname with rfl | rfl
    · rw [h.lookup_of_ne (by decide : "dataMapping" ≠ "mapping")]
      generalize config.lookup "mapping" = v? at hread
      generalize config'.lookup "mapping" = w? at hread
      cases hread with
      | same => exact .same _
      | lists hitems => exact .lists hitems
    · -- the older place counts if nothing stands under the present name
      rw [h.lookup_of_ne (by decide : "mapping" ≠ "dataMapping")]
      cases config'.lookup "mapping" with
      | some v => exact .same _
      | none => simpa using hread
  intro kind htype older older' location
  obtain rfl : NodeKind.setData = kind := NodeKind.name_inj.1 (Value.text.inj htype)
  have hplace : "mapping" ∉ olderPlaces (.text NodeKind.setData.name) := by decide
  simp only [Schema.action]
  rw [Schema.optional_listOf_congr]
  rwa [lookup_config_of_not_mem _ _ hplace, lookup_config_of_not_mem _ _ hplace]

/-- Whatever is added to a configuration is passed over. -/
theorem AddsToConfig.configsAlike (h : AddsToConfig type config config') :
    ConfigsAlike type config config' := by
  cases h with
  | config h =>
    refine configsAlike_of_lookup (fun name hname => h.lookup_eq (List.mem_append_left _ hname)) ?_
    exact formerValue?_congr fun place hplace =>
      (h.lookup_eq (List.mem_append_right _ hplace)).symm
  | block hcounts hblock h =>
    refine configsAlike_of_lookup (fun name hname => ?_) fun name => ?_
    · have hplace := Schema.not_mem_olderPlaces_of_mem_configNames hname
      rw [lookup_put, if_neg]
      rintro rfl
      exact hplace (by simp [olderPlaces, hcounts])
    · -- the block is asked for the entries of a request and nothing else
      rw [formerValue?, formerValue?, if_pos hcounts, if_pos hcounts, lookup_put, if_pos rfl,
        hblock]
      split
      · next hkey => exact (h.lookup_eq hkey).symm
      · rfl
  | assignment htype hname h =>
    subst htype
    exact configsAlike_of_assignment hname h

/-- Whatever is added to a node is passed over. -/
theorem AddsToNode.interchangeable {v w : Value} (h : AddsToNode v w) : Interchangeable v w := by
  cases h with
  | config h => exact h.interchangeable fun _ _ _ => AddsToConfig.configsAlike
  | node h =>
    cases h with
    | intro h =>
      refine interchangeable_of_configsAlike (fun name hname _ => h.lookup_eq hname) ?_
      rw [← h.lookup_eq (by decide : "config" ∈ nodeNames)]
      exact .refl _ _

/-- Whatever is added to a payload leaves it alike. -/
theorem AddsToPayload.fieldsAlike (hnames : graphNames ⊆ names)
    (h : AddsToPayload names fields fields') :
    FieldsAlike names Interchangeable fields fields' := by
  cases h with
  | top h =>
    refine ⟨?_, ?_, fun name hname _ _ => h.lookup_eq hname⟩
    · rw [h.lookup_eq (hnames (by decide : "nodes" ∈ graphNames))]
      exact .same _
    · rw [h.lookup_eq (hnames (by decide : "edges" ∈ graphNames))]
      exact .same _
  | node h =>
    refine ⟨h.itemsAlike .refl fun _ _ => AddsToNode.interchangeable, ?_,
      fun name _ hname _ => h.lookup_of_ne hname⟩
    rw [h.lookup_of_ne (by decide : "edges" ≠ "nodes")]
    exact .same _
  | edge h =>
    refine ⟨?_, h.itemsAlike (fun _ _ => rfl) fun _ _ => AddsToObject.readsAlike_edge,
      fun name _ _ hname => h.lookup_of_ne hname⟩
    rw [h.lookup_of_ne (by decide : "nodes" ≠ "edges")]
    exact .same _

/-! ## Any number of entries -/

/-- What one entry more does not change is not changed by adding and removing any number of
them. -/
theorem loadBy_of_eqvGen {α : Type} {schema : Entries Value → Checked α}
    (hnames : graphNames ⊆ names)
    (hschema : ∀ a b, FieldsAlike names (ReadsAlike Schema.node) a b → schema a = schema b)
    {payload payload' : Value}
    (h : Relation.EqvGen (OfObjects (AddsToPayload names)) payload payload') :
    loadBy schema payload = loadBy schema payload' := by
  induction h with
  | rel payload payload' h =>
    cases h with
    | intro hvalue hvalue' h =>
      exact (loadBy_congr hschema hvalue hvalue' (h.fieldsAlike hnames)).symm
  | refl payload => rfl
  | symm payload payload' _ ih => exact ih.symm
  | trans payload payload' payload'' _ _ ih ih' => exact ih.trans ih'

/-- Loading tells no difference when entries that nobody asks for are added or removed, in
whatever objects of a payload and in whatever order. -/
theorem load_eq_of_eqvGen :
    (∀ payload payload' : Value,
      Relation.EqvGen (OfObjects (AddsToPayload graphNames)) payload payload' →
        loadGraph payload = loadGraph payload')
      ∧ ∀ payload payload' : Value,
        Relation.EqvGen (OfObjects (AddsToPayload workflowNames)) payload payload' →
          loadWorkflow payload = loadWorkflow payload' :=
  ⟨fun _ _ => loadBy_of_eqvGen (List.Subset.refl _) fun _ _ => Schema.graph_congr,
    fun _ _ => loadBy_of_eqvGen (List.subset_append_left _ _) fun _ _ => Schema.workflow_congr⟩

/-- Values to be set, in their older place. -/
def olderMapping (entry : Entries Value) : Entries Value :=
  [("dataMapping", .list [.object entry])]

/-- A value to be set whose source is a number. -/
def unnamedSource : Entries Value :=
  [("from", .int 5), ("to", .text "city")]

/-- The same with a remark. -/
def remarkedSource : Entries Value :=
  [("from", .int 5), ("remark", .list []), ("to", .text "city")]

/-- The remark makes no difference: the payload is refused for the same reason. -/
theorem load_eq_of_eqvGen_remark :
    Relation.EqvGen (OfObjects (AddsToPayload graphNames))
        (ofNode "setData" (olderMapping unnamedSource))
        (ofNode "setData" (olderMapping remarkedSource))
      ∧ loadGraph (ofNode "setData" (olderMapping unnamedSource))
        = loadGraph (ofNode "setData" (olderMapping remarkedSource)) := by
  have hremark : AddsToObject (namesOf assignmentKeys) (.object unnamedSource)
      (.object remarkedSource) :=
    .intro (.intro [("from", .int 5)] [("to", .text "city")] (.list []) (by decide))
  have hmapping : OneListed "dataMapping" (AddsToObject (namesOf assignmentKeys))
      (olderMapping unnamedSource) (olderMapping remarkedSource) :=
    .intro rfl (.intro [] [] hremark)
  have hconfig : AddsToConfig (.text "setData") (olderMapping unnamedSource)
      (olderMapping remarkedSource) := .assignment rfl (.inr rfl) hmapping
  have h : Relation.EqvGen (OfObjects (AddsToPayload graphNames))
      (ofNode "setData" (olderMapping unnamedSource))
      (ofNode "setData" (olderMapping remarkedSource)) :=
    .rel _ _ (.intro rfl rfl (.node (.intro rfl (.intro [] [] (.config (.intro rfl hconfig))))))
  exact ⟨h, load_eq_of_eqvGen.1 _ _ h⟩

end FormAutomation.Payload
