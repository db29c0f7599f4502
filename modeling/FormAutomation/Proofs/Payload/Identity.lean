import FormAutomation.Proofs.Graph.Index
import FormAutomation.Proofs.Payload.Idempotence

/-!
# Nodes that go by their ids

A payload whose fields are all valid is a graph unless two of its nodes have the same id.  The
ids are those that its author wrote, in the same order, since migration does not touch them and
the schema passes none over; so it can be said of the payload itself whether its nodes are told
apart, and which id is complained of if they are not: going through the nodes, the first that was
there before.

A graph that was loaded can be asked for its nodes by their ids and for its edges by their ends.
Edges may well go by the same id, and their ends need not be ids of nodes.
-/

namespace FormAutomation.Payload

/-! ## Names that come again -/

namespace Schema

/-- In this place of the list the name stands for the second time. -/
def ComesAgain (names : List String) (name : String) (place : Nat) : Prop :=
  names[place]? = some name ∧ (names.take place).count name = 1

/-- Of all names that come again, this one is the first to do so. -/
def IsFirstAgain (names : List String) (name : String) : Prop :=
  ∃ place, ComesAgain names name place
    ∧ ∀ other later, ComesAgain names other later → place ≤ later

/-- The names are distinct, and none of them was seen before. -/
def AreNew (seen names : List String) : Prop :=
  names.Nodup ∧ ∀ name ∈ names, name ∉ seen

variable {seen names rest : List String} {name first : String}

theorem areNew_cons_iff :
    AreNew seen (first :: rest) ↔ first ∉ seen ∧ AreNew (first :: seen) rest := by
  simp only [AreNew, List.nodup_cons, List.forall_mem_cons]
  constructor
  · rintro ⟨⟨hfirst, hrest⟩, hnew, hnews⟩
    refine ⟨hnew, hrest, fun name hname hseen => ?_⟩
    rcases List.mem_cons.1 hseen with rfl | hseen
    · exact hfirst hname
    · exact hnews name hname hseen
  · rintro ⟨hnew, hrest, hnews⟩
    exact ⟨⟨fun hmem => hnews first hmem List.mem_cons_self, hrest⟩, hnew, fun name hname hseen =>
      hnews name hname (List.mem_cons_of_mem _ hseen)⟩

/-- Where nothing is found to come again, all names are new. -/
theorem areNew_of_firstRepeated (h : firstRepeated seen names = none) : AreNew seen names := by
  induction names generalizing seen with
  | nil => exact ⟨List.nodup_nil, fun _ hname => absurd hname List.not_mem_nil⟩
  | cons first rest ih =>
    rw [firstRepeated] at h
    split at h
    · cases h
    · next hfirst => exact areNew_cons_iff.2 ⟨hfirst, ih h⟩

/-- What is found to come again stands behind names that are all new, and is one of them or was
seen before. -/
theorem exists_of_firstRepeated (h : firstRepeated seen names = some name) :
    ∃ before after, names = before ++ name :: after ∧ AreNew seen before
      ∧ (name ∈ before ∨ name ∈ seen) := by
  induction names generalizing seen with
  | nil => cases h
  | cons first rest ih =>
    rw [firstRepeated] at h
    split at h
    · next hfirst =>
      obtain rfl := Option.some.inj h
      exact ⟨[], rest, rfl, ⟨List.nodup_nil, fun _ hname => absurd hname List.not_mem_nil⟩,
        .inr hfirst⟩
    · next hfirst =>
      obtain ⟨before, after, rfl, hnew, hname⟩ := ih h
      refine ⟨first :: before, after, rfl, areNew_cons_iff.2 ⟨hfirst, hnew⟩, ?_⟩
      rcases hname with hname | hname
      · exact .inl (List.mem_cons_of_mem _ hname)
      · rcases List.mem_cons.1 hname with rfl | hname
        · exact .inl List.mem_cons_self
        · exact .inr hname

/-- Behind distinct names, one of them is the first to come again. -/
theorem isFirstAgain_of_nodup {before after : List String} (h : before.Nodup)
    (hname : name ∈ before) : IsFirstAgain (before ++ name :: after) name := by
  refine ⟨before.length, ⟨by simp, ?_⟩, fun other later hagain => ?_⟩
  · rw [List.take_left]
    exact List.count_eq_one_of_mem h hname
  · by_contra hlater
    rw [not_le] at hlater
    obtain ⟨hother, hcount⟩ := hagain
    rw [List.getElem?_append_left hlater] at hother
    rw [List.take_append_of_le_length hlater.le] at hcount
    -- the other one would stand among the distinct names twice
    obtain ⟨hlt, hget⟩ := List.getElem?_eq_some_iff.1 hother
    have hmem : other ∈ before.take later := List.count_pos_iff.1 (by omega)
    obtain ⟨earlier, hearlier, hsame⟩ := List.mem_take_iff_getElem.1 hmem
    have hplace : earlier = later := h.getElem_inj_iff.1 (hsame.trans hget.symm)
    omega

/-- Parts are put together to a graph if their nodes have distinct ids. -/
theorem assemble_of_nodup {parts : Parts} (h : (parts.nodes.map (·.id)).Nodup) :
    assemble parts = .ok ⟨parts.id, parts.nodes, parts.edges, h⟩ :=
  dif_pos h

/-- Otherwise the id is told that is the first to come again. -/
theorem assemble_of_not_nodup {parts : Parts} (h : ¬ (parts.nodes.map (·.id)).Nodup) :
    ∃ id, IsFirstAgain (parts.nodes.map (·.id)) id
      ∧ assemble parts = .error [⟨[], .duplicate id⟩] := by
  rcases hrepeated : firstRepeated [] (parts.nodes.map (·.id)) with _ | id
  · exact absurd (areNew_of_firstRepeated hrepeated).1 h
  · obtain ⟨before, after, hids, ⟨hdistinct, -⟩, hid⟩ := exists_of_firstRepeated hrepeated
    have hid : id ∈ before := hid.resolve_right List.not_mem_nil
    refine ⟨id, hids ▸ isFirstAgain_of_nodup hdistinct hid, ?_⟩
    rw [assemble, dif_neg h, hrepeated]
    rfl

end Schema

/-! ## Ids as they were written -/

/-- The id of an object, if it is a text. -/
def writtenId? (v : Value) : Option String :=
  match v.field "id" with
  | .text id => some id
  | _ => none

/-- The ids of the objects in a list. -/
def idsIn : Value → List String
  | .list items => items.filterMap writtenId?
  | _ => []

/-- The ids that the author of a payload wrote in the list of this name, one after the other. -/
def writtenIds (name : String) (payload : Value) : List String :=
  match value payload with
  | .ok v => idsIn (v.field name)
  | .error _ => []

theorem writtenIds_of_value {payload v : Value} (h : value payload = .ok v) (name : String) :
    writtenIds name payload = idsIn (v.field name) := by
  rw [writtenIds, h]

/-! ### The schema keeps them -/

namespace Schema

open Checked

variable {location : List String} {fields : Entries Value}

theorem exists_of_map_eq_ok {α β : Type} {x : Checked α} {f : α → β} {b : β}
    (h : x.map f = .ok b) : ∃ a, x = .ok a ∧ f a = b := by
  cases x with
  | error complaints => cases h
  | ok a => exact ⟨a, rfl, Except.ok.inj h⟩

theorem writtenId?_of_required {id : { id : String // id ≠ "" }}
    (h : required fields location (.single "id") identifier = .ok id) :
    writtenId? (.object fields) = some id.1 := by
  rcases hlookup : fields.lookup "id" with _ | v
  · simp [required, find, Key.single, hlookup, refuse] at h
  simp only [required, find, Key.single, hlookup] at h
  cases v with
  | text s =>
    dsimp only [identifier] at h
    split at h
    · obtain rfl := Except.ok.inj h
      simp [writtenId?, Value.field, hlookup]
    · cases h
  | _ => cases h

theorem writtenId?_of_node {v : Value} {result : Node} (h : node location v = .ok result) :
    writtenId? v = some result.id := by
  cases v with
  | object fields =>
    unfold node at h
    dsimp only at h
    split at h
    · cases h
    · split at h
      · obtain ⟨⟨id, label, action⟩, hboth, rfl⟩ := exists_of_map_eq_ok h
        exact writtenId?_of_required (both_eq_ok.1 hboth).1
      · cases h
    · cases h
  | _ => cases h

theorem writtenId?_of_edge {v : Value} {result : Edge}
    (h : record "WorkflowEdge" edge location v = .ok result) :
    writtenId? v = some result.id := by
  cases v with
  | object fields =>
    obtain ⟨⟨id, source, port, target⟩, hboth, rfl⟩ := exists_of_map_eq_ok h
    exact writtenId?_of_required (both_eq_ok.1 hboth).1
  | _ => cases h

variable {α : Type} {read : Reader α} {idOf : α → String}

/-- A list whose items are read with their ids is read with all of them. -/
theorem idsIn_of_listOf (hread : ∀ location v a, read location v = .ok a →
      writtenId? v = some (idOf a)) {v : Value} {results : List α}
    (h : listOf read location v = .ok results) : idsIn v = results.map idOf := by
  cases v with
  | list items =>
    change all _ 0 items = .ok results at h
    generalize 0 = index at h
    change items.filterMap writtenId? = _
    induction items generalizing index results with
    | nil =>
      obtain rfl := Except.ok.inj h
      rfl
    | cons item rest ih =>
      rw [all_cons] at h
      obtain ⟨⟨first, others⟩, hboth, rfl⟩ := exists_of_map_eq_ok h
      obtain ⟨hfirst, hothers⟩ := both_eq_ok.1 hboth
      rw [List.filterMap_cons_some (hread _ _ _ hfirst), ih _ hothers, List.map_cons]
  | _ => cases h

/-- So is a field that holds such a list, or is left out. -/
theorem idsIn_of_optional (hread : ∀ location v a, read location v = .ok a →
      writtenId? v = some (idOf a)) {name : String} {results : List α}
    (h : optional fields [] (.single name) [] (listOf read) = .ok results) :
    idsIn ((Value.object fields).field name) = results.map idOf := by
  rcases hlookup : fields.lookup name with _ | v
  · simp only [optional, find, Key.single, hlookup] at h
    obtain rfl := Except.ok.inj h
    simp [Value.field, hlookup, idsIn]
  · simp only [optional, find, Key.single, hlookup] at h
    simpa [Value.field, hlookup] using idsIn_of_listOf hread h

theorem idsIn_of_parts {result : Parts} (h : parts fields = .ok result) :
    idsIn ((Value.object fields).field "nodes") = result.nodes.map (·.id)
      ∧ idsIn ((Value.object fields).field "edges") = result.edges.map (·.id) := by
  obtain ⟨⟨id, nodes, edges⟩, hboth, rfl⟩ := exists_of_map_eq_ok h
  obtain ⟨-, hlists⟩ := both_eq_ok.1 hboth
  obtain ⟨hnodes, hedges⟩ := both_eq_ok.1 hlists
  exact ⟨idsIn_of_optional (fun _ _ _ => writtenId?_of_node) hnodes,
    idsIn_of_optional (fun _ _ _ => writtenId?_of_edge) hedges⟩

end Schema

/-! ### So does migration -/

namespace Migration

theorem KeepsNode.writtenId?_eq {v w : Value} (h : KeepsNode v w) :
    writtenId? w = writtenId? v := by
  cases h with
  | other h => rfl
  | @object fields fields' config hother hconfig =>
    have hid := congrArg (List.lookup "id") hother
    rw [Entries.lookup_without, Entries.lookup_without, if_neg (by decide), if_neg (by decide)]
      at hid
    simp only [writtenId?, Value.field, hid]

theorem filterMap_writtenId? {items items' : List Value}
    (h : List.Forall₂ KeepsNode items items') :
    items'.filterMap writtenId? = items.filterMap writtenId? := by
  induction h with
  | nil => rfl
  | cons hfirst _ ih => rw [List.filterMap_cons, List.filterMap_cons, hfirst.writtenId?_eq, ih]

variable {fields migrated : Entries Value} {notes : List Note}

theorem idsIn_nodes (h : payload fields = .ok (migrated, notes)) :
    idsIn ((Value.object migrated).field "nodes") = idsIn ((Value.object fields).field "nodes") := by
  have hsettled := isSettled_payload h
  by_cases hlist : ∃ items, fields.lookup "nodes" = some (.list items)
  · obtain ⟨items, hitems⟩ := hlist
    obtain ⟨items', hitems', hkeeps⟩ := hsettled.nodes items hitems
    simpa [Value.field, hitems, hitems', idsIn] using filterMap_writtenId? hkeeps
  · rw [hsettled.unlisted (not_exists.1 hlist)]

theorem idsIn_edges (h : payload fields = .ok (migrated, notes)) :
    idsIn ((Value.object migrated).field "edges") = idsIn ((Value.object fields).field "edges") := by
  rcases (isSettled_payload h).other "edges" (by decide) with hsame | ⟨-, hnone, hempty⟩
  · rw [Value.field, hsame, ← Value.field]
  · simp [Value.field, hnone, hempty, idsIn]

end Migration

/-! ## Loading -/

section

variable {payload : Value} {parts : Schema.Parts}

/-- What is loaded is what the schema reads in the migrated payload. -/
theorem exists_of_loadBy {α : Type} {schema : Entries Value → Checked α} {a : α}
    (h : loadBy schema payload = .ok a) :
    ∃ fields migrated notes, value payload = .ok (.object fields)
      ∧ Migration.payload fields = .ok (migrated, notes) ∧ schema migrated = .ok a := by
  rcases hp : value payload with fault | v
  · rw [loadBy_of_error hp] at h
    cases h
  rcases hv : entries? v with _ | fields
  · rw [loadBy_of_other hp hv] at h
    cases h
  obtain rfl := eq_object_of_entries? hv
  rcases hm : Migration.payload fields with fault | ⟨migrated, notes⟩
  · rw [loadBy_of_unmigrated hp hm] at h
    cases h
  rw [loadBy_of_migrated hp hm] at h
  rcases hschema : schema migrated with complaints | result
  · rw [hschema] at h
    cases h
  · rw [hschema] at h
    obtain rfl := Except.ok.inj h
    exact ⟨fields, migrated, notes, rfl, hm, hschema⟩

/-- The parts of a payload are put together to its graph. -/
theorem loadGraph_of_loadBy (h : loadBy Schema.parts payload = .ok parts) :
    loadGraph payload = (Schema.assemble parts).mapError .refused := by
  obtain ⟨fields, migrated, notes, hp, hm, hparts⟩ := exists_of_loadBy h
  rw [loadGraph, loadBy_of_migrated hp hm, Schema.graph, hparts]
  rfl

/-- Only parts make a graph. -/
theorem exists_of_loadGraph {graph : Graph} (h : loadGraph payload = .ok graph) :
    ∃ parts, loadBy Schema.parts payload = .ok parts := by
  obtain ⟨fields, migrated, notes, hp, hm, hgraph⟩ := exists_of_loadBy h
  rcases hparts : Schema.parts migrated with complaints | parts
  · rw [Schema.graph, hparts] at hgraph
    cases hgraph
  · exact ⟨parts, by rw [loadBy_of_migrated hp hm, hparts]; rfl⟩

/-- The parts of a payload have the ids that were written in it. -/
theorem writtenIds_of_loadBy (h : loadBy Schema.parts payload = .ok parts) :
    writtenIds "nodes" payload = parts.nodes.map (·.id)
      ∧ writtenIds "edges" payload = parts.edges.map (·.id) := by
  obtain ⟨fields, migrated, notes, hp, hm, hparts⟩ := exists_of_loadBy h
  rw [writtenIds_of_value hp, writtenIds_of_value hp, ← Migration.idsIn_nodes hm,
    ← Migration.idsIn_edges hm]
  exact Schema.idsIn_of_parts hparts

end

/-- What is said of an id that two nodes have. -/
theorem message_duplicate (id : String) :
    (Fault.refused [⟨[], .duplicate id⟩]).message
      = s!"Workflow payload failed validation:\n- Value error, Duplicate node id '{id}'." := by
  change "Workflow payload failed validation:\n"
      ++ ("- " ++ ("Value error, Duplicate node id '" ++ id ++ "'."))
    = "Workflow payload failed validation:\n- Value error, Duplicate node id '" ++ id ++ "'."
  simp [← String.append_assoc]

/-- How a payload is loaded whose nodes are told apart by their ids, or are not. -/
structure GoesByIds (payload : Value) : Prop where
  /-- what is loaded has distinct ids, those that were written, and all parts of the payload -/
  distinct : ∀ graph, loadGraph payload = .ok graph →
    (writtenIds "nodes" payload).Nodup
      ∧ loadBy Schema.parts payload = .ok ⟨graph.id, graph.nodes, graph.edges⟩
      ∧ graph.nodes.map (·.id) = writtenIds "nodes" payload
      ∧ graph.edges.map (·.id) = writtenIds "edges" payload
  /-- it answers by its ids -/
  indexed : ∀ graph, loadGraph payload = .ok graph → graph.IsIndexed
  /-- parts with distinct ids are loaded -/
  loaded : ∀ parts, loadBy Schema.parts payload = .ok parts →
    (writtenIds "nodes" payload).Nodup → ∃ graph, loadGraph payload = .ok graph
      ∧ graph.id = parts.id ∧ graph.nodes = parts.nodes ∧ graph.edges = parts.edges
  /-- of others the id is told that is the first to come again -/
  repeated : ∀ parts, loadBy Schema.parts payload = .ok parts →
    ¬ (writtenIds "nodes" payload).Nodup →
      ∃ id fault, Schema.IsFirstAgain (writtenIds "nodes" payload) id
        ∧ loadGraph payload = .error fault
        ∧ fault.message
          = s!"Workflow payload failed validation:\n- Value error, Duplicate node id '{id}'."

/-- Payloads go by the ids of their nodes. -/
theorem goesByIds_loadGraph (payload : Value) : GoesByIds payload where
  distinct := by
    intro graph hgraph
    obtain ⟨parts, hparts⟩ := exists_of_loadGraph hgraph
    obtain ⟨hnodes, hedges⟩ := writtenIds_of_loadBy hparts
    rw [loadGraph_of_loadBy hparts] at hgraph
    by_cases hdistinct : (parts.nodes.map (·.id)).Nodup
    · rw [Schema.assemble_of_nodup hdistinct] at hgraph
      obtain rfl := Except.ok.inj hgraph
      exact ⟨hnodes ▸ hdistinct, hparts, hnodes.symm, hedges.symm⟩
    · obtain ⟨id, -, hassemble⟩ := Schema.assemble_of_not_nodup hdistinct
      rw [hassemble] at hgraph
      cases hgraph
  indexed := fun graph _ => graph.isIndexed
  loaded := by
    intro parts hparts hdistinct
    rw [(writtenIds_of_loadBy hparts).1] at hdistinct
    refine ⟨⟨parts.id, parts.nodes, parts.edges, hdistinct⟩, ?_, rfl, rfl, rfl⟩
    rw [loadGraph_of_loadBy hparts, Schema.assemble_of_nodup hdistinct]
    rfl
  repeated := by
    intro parts hparts hrepeated
    rw [(writtenIds_of_loadBy hparts).1] at hrepeated ⊢
    obtain ⟨id, hfirst, hassemble⟩ := Schema.assemble_of_not_nodup hrepeated
    refine ⟨id, .refused [⟨[], .duplicate id⟩], hfirst, ?_, message_duplicate id⟩
    rw [loadGraph_of_loadBy hparts, hassemble]
    rfl

/-- The nodes of a payload are pages with these ids. -/
def pages (ids : List String) : Value :=
  .object [("nodes", .list (ids.map fun id =>
    .object [("id", .text id), ("type", .text "page"), ("config", .object [])]))]

/-- Pages with distinct ids are loaded, and of others the id is told that is the first to come
again. -/
theorem goesByIds_loadGraph_pages :
    (∃ parts graph, loadBy Schema.parts (pages ["a", "b"]) = .ok parts
        ∧ (writtenIds "nodes" (pages ["a", "b"])).Nodup
        ∧ loadGraph (pages ["a", "b"]) = .ok graph ∧ graph.nodes = parts.nodes
        ∧ graph.IsIndexed ∧ graph.nodes.map (·.id) = ["a", "b"])
      ∧ ∃ parts id fault, loadBy Schema.parts (pages ["a", "b", "b", "a"]) = .ok parts
        ∧ ¬ (writtenIds "nodes" (pages ["a", "b", "b", "a"])).Nodup
        ∧ Schema.IsFirstAgain (writtenIds "nodes" (pages ["a", "b", "b", "a"])) id
        ∧ loadGraph (pages ["a", "b", "b", "a"]) = .error fault
        ∧ fault.message
          = s!"Workflow payload failed validation:\n- Value error, Duplicate node id '{id}'." := by
  constructor
  · have hgoes := goesByIds_loadGraph (pages ["a", "b"])
    have hdistinct : (writtenIds "nodes" (pages ["a", "b"])).Nodup := by decide
    obtain ⟨graph, hgraph, -, hnodes, -⟩ := hgoes.loaded _ rfl hdistinct
    obtain ⟨-, -, hids, -⟩ := hgoes.distinct graph hgraph
    exact ⟨_, graph, rfl, hdistinct, hgraph, hnodes, hgoes.indexed graph hgraph, hids⟩
  · have hgoes := goesByIds_loadGraph (pages ["a", "b", "b", "a"])
    have hrepeated : ¬ (writtenIds "nodes" (pages ["a", "b", "b", "a"])).Nodup := by decide
    obtain ⟨id, fault, hfirst, hfault, hmessage⟩ := hgoes.repeated _ rfl hrepeated
    exact ⟨_, id, fault, rfl, hrepeated, hfirst, hfault, hmessage⟩

end FormAutomation.Payload
