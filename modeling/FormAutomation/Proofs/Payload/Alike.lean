import FormAutomation.Proofs.Payload.Refusal
import FormAutomation.Proofs.Payload.Lookup
import Mathlib.Data.List.Forall2

/-!
# Payloads that are loaded alike

Two payloads are loaded alike if migration and the schema cannot tell them apart: they give
the same graph, or they are refused with the same complaints at the same places.

Migration and the schema are followed side by side on the two payloads.  At each step they
either fail for the same reason or go on with what is alike.  Which nodes and edges are
alike is left open as far as it can be: of two nodes it is asked that they migrate to what
the schema reads alike, of two edges that the schema reads them alike.
-/

namespace FormAutomation.Payload

open Entries Migration

/-! ## Results side by side -/

/-- Two results that agree: both fail for the same reason, or both give what agrees. -/
inductive Parallel {ε α : Type} (R : α → α → Prop) : Except ε α → Except ε α → Prop where
  /-- both fail -/
  | error (e : ε) : Parallel R (.error e) (.error e)
  /-- both succeed -/
  | ok {a b : α} (h : R a b) : Parallel R (.ok a) (.ok b)

theorem Parallel.refl {ε α : Type} {R : α → α → Prop} (h : ∀ a, R a a) (x : Except ε α) :
    Parallel R x x := by
  cases x with
  | error e => exact .error e
  | ok a => exact .ok (h a)

theorem Parallel.bind {ε α β : Type} {R : α → α → Prop} {S : β → β → Prop} {x y : Except ε α}
    {f g : α → Except ε β} (h : Parallel R x y) (hfg : ∀ a b, R a b → Parallel S (f a) (g b)) :
    Parallel S (x >>= f) (y >>= g) := by
  cases h with
  | error e => exact .error e
  | ok h => exact hfg _ _ h

/-- What stands under a name in two objects: the same, or two lists whose items correspond. -/
inductive ItemsAlike (R : Value → Value → Prop) : Option Value → Option Value → Prop where
  /-- it is the same -/
  | same (v? : Option Value) : ItemsAlike R v? v?
  /-- the items correspond one by one -/
  | lists {items items' : List Value} (h : List.Forall₂ R items items') :
      ItemsAlike R (some (.list items)) (some (.list items'))

theorem ItemsAlike.isSome_eq {R : Value → Value → Prop} {v? w? : Option Value}
    (h : ItemsAlike R v? w?) : v?.isSome = w?.isSome := by
  cases h <;> rfl

/-! ## What the schema reads alike -/

namespace Schema

open Checked

variable {α : Type} {read : Reader α}

/-- Two values that are read alike, wherever they stand. -/
def ReadsAlike (read : Reader α) (v w : Value) : Prop :=
  ∀ location, read location v = read location w

theorem all_congr {γ : Type} {R : γ → γ → Prop} {read : Nat → γ → Checked α}
    (hread : ∀ index a b, R a b → read index a = read index b) {items items' : List γ}
    (h : List.Forall₂ R items items') (index : Nat) :
    all read index items = all read index items' := by
  induction h generalizing index with
  | nil => rfl
  | cons hfirst hrest ih => rw [all, all, hread index _ _ hfirst, ih]

/-- Lists whose items are read alike are read alike, or missed alike. -/
theorem optional_listOf_congr {a b : Entries Value} {location : List String} {name : String}
    {default : List α} (h : ItemsAlike (ReadsAlike read) (a.lookup name) (b.lookup name)) :
    optional a location (.single name) default (listOf read)
      = optional b location (.single name) default (listOf read) := by
  generalize ha : a.lookup name = v? at h
  generalize hb : b.lookup name = w? at h
  cases h with
  | same => exact optional_single_congr (ha.trans hb.symm)
  | lists h =>
    simp only [optional, find, Key.single, ha, hb, listOf]
    exact all_congr (fun _ _ _ hread => hread _) h 0

/-- The names of a node's fields. -/
def nodeNames : List String := ["id", "label", "type", "config"]

/-- Nodes whose configurations are read alike are read alike. -/
theorem node_congr {a b : Entries Value}
    (hother : ∀ name ∈ nodeNames, name ≠ "config" → a.lookup name = b.lookup name)
    (hconfig : ∀ kind : NodeKind, a.lookup "type" = some (.text kind.name) → ∀ location,
      required a location (.single "config") (configuration kind)
        = required b location (.single "config") (configuration kind)) :
    ReadsAlike node (.object a) (.object b) := by
  intro location
  have hid := hother "id" (by decide) (by decide)
  have hlabel := hother "label" (by decide) (by decide)
  have htype := hother "type" (by decide) (by decide)
  -- the type, which is the same, decides how the configuration is read
  simp only [node, ← htype]
  split
  · rfl
  · next name hname =>
    split
    · next kind hkind =>
      obtain rfl : kind.name = name := by simpa using List.find?_some hkind
      rw [nodeOfKind, nodeOfKind, required_single_congr hid, optional_single_congr hlabel,
        hconfig kind hname]
    · rfl
  · rfl

/-- Two objects have the same entries under these names, but for nodes and edges, which
correspond one by one. -/
structure FieldsAlike (names : List String) (R : Value → Value → Prop) (a b : Entries Value) :
    Prop where
  /-- the nodes correspond -/
  nodes : ItemsAlike R (a.lookup "nodes") (b.lookup "nodes")
  /-- the edges are read alike -/
  edges : ItemsAlike (ReadsAlike (record "WorkflowEdge" edge)) (a.lookup "edges") (b.lookup "edges")
  /-- all else is the same -/
  other : ∀ name ∈ names, name ≠ "nodes" → name ≠ "edges" → a.lookup name = b.lookup name

variable {names : List String} {a b : Entries Value}

theorem parts_congr (hnames : graphNames ⊆ names) (h : FieldsAlike names (ReadsAlike node) a b) :
    parts a = parts b := by
  have hid := h.other "id" (hnames (by decide)) (by decide) (by decide)
  rw [parts, parts, optional_single_congr hid, optional_listOf_congr h.nodes,
    optional_listOf_congr h.edges]

theorem graph_congr (h : FieldsAlike graphNames (ReadsAlike node) a b) : graph a = graph b := by
  rw [graph, graph, parts_congr (List.Subset.refl _) h]

theorem workflow_congr (h : FieldsAlike workflowNames (ReadsAlike node) a b) :
    workflow a = workflow b := by
  have hname := h.other "name" (by decide) (by decide) (by decide)
  have henabled := h.other "enabled" (by decide) (by decide) (by decide)
  rw [workflow, workflow, parts_congr (List.subset_append_left _ _) h,
    optional_single_congr hname, optional_single_congr henabled]

end Schema

/-! ## What is migrated alike -/

open Schema (ReadsAlike FieldsAlike nodeNames)

/-- Two items among the nodes of a payload that are migrated for the same result: neither
can be, or the schema reads alike what comes of them. -/
def Interchangeable (v w : Value) : Prop :=
  Parallel (fun x y => ReadsAlike Schema.node x.1 y.1) (Migration.node v) (Migration.node w)

theorem Interchangeable.refl (v : Value) : Interchangeable v v :=
  Parallel.refl (fun _ _ => rfl) _

theorem parallel_nodes {items items' : List Value} (h : List.Forall₂ Interchangeable items items') :
    Parallel (fun x y => List.Forall₂ (ReadsAlike Schema.node) x.1 y.1) (Migration.nodes items)
      (Migration.nodes items') := by
  -- the first node that cannot be migrated stops both, for the same reason
  induction h with
  | nil => exact .ok .nil
  | cons hfirst hrest ih =>
    rw [Migration.nodes, Migration.nodes]
    refine Parallel.bind hfirst fun x y hxy => ?_
    refine ih.bind fun rest rest' hrests => ?_
    exact .ok (.cons hxy hrests)

variable {names : List String} {fields fields' : Entries Value}

/-- Payloads with lists of nodes stay alike when the migrated nodes take their place, and
when edges are added to both. -/
theorem parallel_payload_of_lists {items items' : List Value}
    (h : FieldsAlike names Interchangeable fields fields')
    (hnodes : fields.lookup "nodes" = some (.list items))
    (hnodes' : fields'.lookup "nodes" = some (.list items'))
    (hitems : List.Forall₂ Interchangeable items items') :
    Parallel (fun x y => FieldsAlike names (ReadsAlike Schema.node) x.1 y.1)
      (Migration.payload fields) (Migration.payload fields') := by
  simp only [Migration.payload, hnodes, hnodes']
  refine (parallel_nodes hitems).bind fun x y hxy => .ok ?_
  have hput : FieldsAlike names (ReadsAlike Schema.node) (fields.put "nodes" (.list x.1))
      (fields'.put "nodes" (.list y.1)) := by
    refine ⟨?_, by simpa [lookup_put] using h.edges, fun name hname hn he => ?_⟩
    · simpa [lookup_put] using ItemsAlike.lists hxy
    · simpa [lookup_put, hn] using h.other name hname hn he
  have hhas : (fields.put "nodes" (.list x.1)).has "edges"
      = (fields'.put "nodes" (.list y.1)).has "edges" := hput.edges.isSome_eq
  dsimp only
  rw [hhas]
  split
  · exact hput
  · -- edges are added to both payloads
    refine ⟨?_, ?_, fun name hname hn he => ?_⟩
    · simpa [lookup_put] using ItemsAlike.lists hxy
    · simpa [lookup_put] using ItemsAlike.same _
    · simpa [lookup_put, hn, he] using h.other name hname hn he

theorem parallel_payload (h : FieldsAlike names Interchangeable fields fields') :
    Parallel (fun x y => FieldsAlike names (ReadsAlike Schema.node) x.1 y.1)
      (Migration.payload fields) (Migration.payload fields') := by
  generalize hn : fields.lookup "nodes" = v?
  generalize hn' : fields'.lookup "nodes" = w?
  have hnodes := h.nodes
  rw [hn, hn'] at hnodes
  cases hnodes with
  | lists hitems => exact parallel_payload_of_lists h hn hn' hitems
  | same =>
    by_cases hlist : ∃ items, v? = some (.list items)
    · obtain ⟨items, rfl⟩ := hlist
      exact parallel_payload_of_lists h hn hn' (List.forall₂_same.2 fun v _ => .refl v)
    · -- without a list of nodes migration changes neither of them
      have hunlisted := not_exists.1 hlist
      rw [payload_of_unlisted (hn ▸ hunlisted), payload_of_unlisted (hn' ▸ hunlisted)]
      exact .ok ⟨by rw [hn, hn']; exact .same _, h.edges, h.other⟩

/-! ## What is loaded alike -/

/-- Payloads that are alike are loaded alike by a schema that reads alike what is alike. -/
theorem loadBy_congr {α : Type} {schema : Entries Value → Checked α}
    (hschema : ∀ a b, FieldsAlike names (ReadsAlike Schema.node) a b → schema a = schema b)
    {payload payload' : Value} (hvalue : value payload = .ok (.object fields))
    (hvalue' : value payload' = .ok (.object fields'))
    (h : FieldsAlike names Interchangeable fields fields') :
    loadBy schema payload' = loadBy schema payload := by
  have hmigrated := parallel_payload h
  generalize hm : Migration.payload fields = migrated at hmigrated
  generalize hm' : Migration.payload fields' = migrated' at hmigrated
  cases hmigrated with
  | error fault => rw [loadBy_of_unmigrated hvalue hm, loadBy_of_unmigrated hvalue' hm']
  | ok halike =>
    rw [loadBy_of_migrated hvalue hm, loadBy_of_migrated hvalue' hm', hschema _ _ halike]

/-! ## Nodes whose configurations are alike -/

/-- Two configurations of nodes of a type that are read alike after migration. -/
def ConfigsAlike (type : Value) (older older' : Entries Value) : Prop :=
  ∀ kind : NodeKind, type = .text kind.name → ∀ name name' location,
    Schema.action kind location (config name type older).1
      = Schema.action kind location (config name' type older').1

/-- Nodes with the same id, label and type whose configurations are alike can be taken for
each other. -/
theorem interchangeable_of_configsAlike
    (hother : ∀ name ∈ nodeNames, name ≠ "config" → fields.lookup name = fields'.lookup name)
    (h : ConfigsAlike ((fields.lookup "type").getD .null) (objectFields (fields.lookup "config"))
      (objectFields (fields'.lookup "config"))) :
    Interchangeable (.object fields) (.object fields') := by
  have htype := hother "type" (by decide) (by decide)
  have hfaults : recordFault? fields' = recordFault? fields := by
    rw [recordFault?, recordFault?, htype]
  unfold Interchangeable
  rcases hfault : recordFault? fields with _ | fault
  · rw [node_of_recordFault_eq_none hfault, node_of_recordFault_eq_none (hfaults.trans hfault),
      ← htype]
    refine .ok (Schema.node_congr (fun name hname hne => ?_) fun kind hkind location => ?_)
    · simpa [lookup_put, hne] using hother name hname hne
    · have hkind' : fields.lookup "type" = some (.text kind.name) := by
        simpa [lookup_put] using hkind
      simp only [Schema.required, Schema.find, Schema.Key.single, lookup_put, if_pos,
        Schema.configuration]
      exact h kind (by rw [hkind', Option.getD_some]) _ _ _
  · rw [node_of_recordFault rfl hfault, node_of_recordFault rfl (hfaults.trans hfault)]
    exact .error fault

/-! ## Changes in one place -/

/-- Two lists that differ in one item. -/
inductive OneItem (R : Value → Value → Prop) : List Value → List Value → Prop where
  /-- the items before it and after it are the same -/
  | intro (before after : List Value) {v w : Value} (h : R v w) :
      OneItem R (before ++ v :: after) (before ++ w :: after)

/-- Two objects that differ in one item of the list under a name. -/
inductive OneListed (name : String) (R : Value → Value → Prop) :
    Entries Value → Entries Value → Prop where
  /-- the list is replaced -/
  | intro {fields : Entries Value} {items items' : List Value}
      (hlist : fields.lookup name = some (.list items)) (h : OneItem R items items') :
      OneListed name R fields (fields.put name (.list items'))

/-- Two nodes that differ in their configurations. -/
inductive OneConfig (R : Value → Entries Value → Entries Value → Prop) : Value → Value → Prop where
  /-- the configuration is replaced -/
  | intro {fields config config' : Entries Value}
      (hconfig : fields.lookup "config" = some (.object config))
      (h : R ((fields.lookup "type").getD .null) config config') :
      OneConfig R (.object fields) (.object (fields.put "config" (.object config')))

/-- Two payloads, each an object or a text that holds one, whose objects are related. -/
inductive OfObjects (R : Entries Value → Entries Value → Prop) : Value → Value → Prop where
  /-- these are the objects -/
  | intro {payload payload' : Value} {fields fields' : Entries Value}
      (hvalue : value payload = .ok (.object fields))
      (hvalue' : value payload' = .ok (.object fields')) (h : R fields fields') :
      OfObjects R payload payload'

theorem OneItem.forall₂ {R S : Value → Value → Prop} (hrefl : ∀ v, S v v)
    (hRS : ∀ v w, R v w → S v w) {items items' : List Value} (h : OneItem R items items') :
    List.Forall₂ S items items' := by
  cases h with
  | intro before after h =>
    have hsame (part : List Value) : List.Forall₂ S part part :=
      List.forall₂_same.2 fun v _ => hrefl v
    exact List.rel_append (hsame before) (.cons (hRS _ _ h) (hsame after))

theorem OneListed.itemsAlike {R S : Value → Value → Prop} {name : String} (hrefl : ∀ v, S v v)
    (hRS : ∀ v w, R v w → S v w) {fields fields' : Entries Value}
    (h : OneListed name R fields fields') :
    ItemsAlike S (fields.lookup name) (fields'.lookup name) := by
  cases h with
  | intro hlist h =>
    rw [hlist, lookup_put, if_pos rfl]
    exact .lists (h.forall₂ hrefl hRS)

theorem OneListed.lookup_of_ne {R : Value → Value → Prop} {name other : String}
    {fields fields' : Entries Value} (h : OneListed name R fields fields') (hne : other ≠ name) :
    fields.lookup other = fields'.lookup other := by
  cases h with
  | intro => rw [lookup_put, if_neg hne]

/-- A node can be taken for one whose configuration is alike. -/
theorem OneConfig.interchangeable {R : Value → Entries Value → Entries Value → Prop}
    (hR : ∀ type config config', R type config config' → ConfigsAlike type config config')
    {v w : Value} (h : OneConfig R v w) : Interchangeable v w := by
  cases h with
  | intro hconfig h =>
    refine interchangeable_of_configsAlike (fun name _ hname => ?_) ?_
    · rw [lookup_put, if_neg hname]
    · rw [hconfig, lookup_put, if_pos rfl]
      exact hR _ _ _ h

/-- Payloads are loaded alike if a node of the one can be taken for that of the other. -/
theorem load_of_oneNode {R : Value → Value → Prop} (hR : ∀ v w, R v w → Interchangeable v w)
    {payload payload' : Value} (h : OfObjects (OneListed "nodes" R) payload payload') :
    loadGraph payload' = loadGraph payload ∧ loadWorkflow payload' = loadWorkflow payload := by
  cases h with
  | intro hvalue hvalue' h =>
    have halike (names : List String) : FieldsAlike names Interchangeable _ _ :=
      ⟨h.itemsAlike .refl hR, by rw [h.lookup_of_ne (by decide)]; exact .same _,
        fun name _ hname _ => h.lookup_of_ne hname⟩
    exact ⟨loadBy_congr (fun _ _ => Schema.graph_congr) hvalue hvalue' (halike _),
      loadBy_congr (fun _ _ => Schema.workflow_congr) hvalue hvalue' (halike _)⟩

end FormAutomation.Payload
