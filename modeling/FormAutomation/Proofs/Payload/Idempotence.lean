import FormAutomation.Proofs.Payload.Lookup
import FormAutomation.Proofs.Payload.Refusal
import FormAutomation.Proofs.Payload.RoundTrip
import FormAutomation.Proofs.Text.Capitals
import Mathlib.Data.List.Forall2

/-!
# Migration comes to rest

What was migrated is in its present shape: no request block is left, no older name, and a
method is in capitals, which stay as they are.  So migrating it again changes nothing and
there is nothing to note.

This would fail if one rewriting made what another one takes up.  It does not: a block is
dissolved into entries none of which is a block, an older name becomes one that is not an
older name of its type, and no type has both.
-/

namespace FormAutomation.Payload

open Entries

namespace Migration

/-! ## Configurations -/

variable {node node' : String} {type : Value} {entries : Entries Value}

/-- No request block stands where it counts. -/
def HasNoBlock (type : Value) (entries : Entries Value) : Prop :=
  hasRequestBlock type = true → ∀ block, entries.lookup "api" ≠ some (.object block)

theorem flatten_of_hasNoBlock (h : HasNoBlock type entries) :
    flatten node type entries = (entries, []) := by
  unfold flatten
  split
  · next block hblock happ => exact absurd happ (h hblock block)
  · rfl

/-- A block that was dissolved is gone. -/
theorem hasNoBlock_flatten : HasNoBlock type (flatten node type entries).1 := by
  by_cases h : HasNoBlock type entries
  · rwa [flatten_of_hasNoBlock h]
  · simp only [HasNoBlock, not_forall, not_not] at h
    obtain ⟨hblock, block, happ⟩ := h
    intro _ other
    simp [lookup_flatten_api node hblock fun _ => .inr ⟨block, happ⟩]

theorem lookup_renameAll_of_mem {name : String} (h : name ∈ (renamings type).map (·.1)) :
    (renameAll node (renamings type) entries).1.lookup name = none := by
  rw [lookup_renameAll node name (apart_renamings type), if_pos h]

/-- Other names make no block. -/
theorem HasNoBlock.renameAll (h : HasNoBlock type entries) :
    HasNoBlock type (renameAll node (renamings type) entries).1 := by
  intro hblock
  rw [renamings_of_hasRequestBlock hblock]
  exact h hblock

/-- A method in capitals makes no block. -/
theorem HasNoBlock.raiseMethod (h : HasNoBlock type entries) :
    HasNoBlock type (raiseMethod entries) := by
  intro hblock block happ
  rw [lookup_raiseMethod] at happ
  obtain ⟨v, hv, hraised⟩ := Option.map_eq_some_iff.1 happ
  have hsame : v = .object block := hraised
  exact h hblock block (hsame ▸ hv)

/-- A method is put in capitals once. -/
theorem raiseMethod_raiseMethod (entries : Entries Value) :
    raiseMethod (raiseMethod entries) = raiseMethod entries := by
  refine raiseMethod_of_capitals fun name hname => ?_
  rw [lookup_raiseMethod] at hname
  obtain ⟨v, -, hraised⟩ := Option.map_eq_some_iff.1 hname
  cases v with
  | text s =>
    obtain rfl : Text.upper s = name := Value.text.inj hraised
    exact Text.upper_upper s
  | _ => cases hraised

/-- A configuration that was migrated is left as it is. -/
theorem config_config : config node' type (config node type entries).1
    = ((config node type entries).1, []) := by
  have hmigrated : (config node type entries).1
      = raiseMethod (renameAll node (renamings type) (flatten node type entries).1).1 := rfl
  -- what comes after a block was dissolved makes no block again
  have hblock : HasNoBlock type (config node type entries).1 :=
    hmigrated ▸ hasNoBlock_flatten.renameAll.raiseMethod
  have holder : ∀ pair ∈ renamings type, (config node type entries).1.lookup pair.1 = none := by
    intro pair hpair
    rw [hmigrated, lookup_raiseMethod, lookup_renameAll_of_mem (List.mem_map_of_mem hpair)]
    rfl
  have hcapitals : raiseMethod (config node type entries).1 = (config node type entries).1 :=
    hmigrated ▸ raiseMethod_raiseMethod _
  generalize (config node type entries).1 = migrated at hblock holder hcapitals
  simp [config, flatten_of_hasNoBlock hblock, renameAll_of_absent holder, hcapitals]

/-! ## Nodes -/

/-- What migration may do to an item among the nodes. -/
inductive KeepsNode : Value → Value → Prop where
  /-- nothing, if it is no object -/
  | other {v : Value} (h : ∀ fields, v ≠ .object fields) : KeepsNode v v
  /-- the configuration of an object is one afterwards; nothing else changes, nor does its
  order -/
  | object {fields fields' config : Entries Value}
      (hother : Entries.without fields' "config" = Entries.without fields "config")
      (hconfig : fields'.lookup "config" = some (.object config)) :
      KeepsNode (.object fields) (.object fields')

theorem without_put (entries : Entries Value) (name : String) (v : Value) :
    (entries.put name v).without name = entries.without name := by
  induction entries with
  | nil => simp [put, without]
  | cons entry rest ih =>
    by_cases hname : entry.1 = name
    · simp [put, without, hname]
    · simpa [put, without, hname] using ih

/-- A node that can be migrated keeps all but its configuration, and migrating it again
changes nothing. -/
theorem settled_node {v w : Value} {notes : List Note} (h : Migration.node v = .ok (w, notes)) :
    KeepsNode v w ∧ Migration.node w = .ok (w, []) := by
  cases v with
  | object fields =>
    rcases hfault : recordFault? fields with _ | fault
    · rw [node_of_recordFault_eq_none hfault] at h
      obtain ⟨rfl, -⟩ := Prod.mk.inj (Except.ok.inj h)
      generalize hname : nodeName fields = name
      generalize htype : (fields.lookup "type").getD .null = type
      generalize objectFields (fields.lookup "config") = older
      -- the configuration is the migrated one, and the type is as it was
      generalize hfields :
        Entries.put fields "config" (.object (config name type older).1) = fields'
      have hlookup : ∀ other, fields'.lookup other
          = if other = "config" then some (.object (config name type older).1)
            else fields.lookup other := fun other => hfields ▸ lookup_put _ _ _ other
      have hconfig := (hlookup "config").trans (if_pos rfl)
      have htype' : fields'.lookup "type" = fields.lookup "type" := hlookup "type"
      refine ⟨.object (hfields ▸ without_put _ _ _) hconfig, ?_⟩
      have hfault' : recordFault? fields' = none := by
        rw [recordFault?, htype', ← recordFault?, hfault]
      rw [node_of_recordFault_eq_none hfault', htype', htype, hconfig, objectFields, config_config,
        put_of_lookup hconfig]
    · rw [node_of_recordFault rfl hfault] at h
      cases h
  | _ =>
    obtain ⟨rfl, -⟩ := Prod.mk.inj (Except.ok.inj h)
    refine ⟨.other fun fields hobject => ?_, rfl⟩
    cases hobject

/-- So it goes for all nodes, one by one. -/
theorem settled_nodes {items items' : List Value} {notes : List Note}
    (h : nodes items = .ok (items', notes)) :
    List.Forall₂ KeepsNode items items' ∧ nodes items' = .ok (items', []) := by
  induction items generalizing items' notes with
  | nil =>
    obtain ⟨rfl, -⟩ := Prod.mk.inj (Except.ok.inj h)
    exact ⟨.nil, rfl⟩
  | cons v rest ih =>
    rw [nodes] at h
    rcases hv : Migration.node v with fault | ⟨w, first⟩
    · simp [hv, bind, Except.bind] at h
    rcases hrest : nodes rest with fault | ⟨rest', more⟩
    · simp [hv, hrest, bind, Except.bind] at h
    simp only [hv, hrest, bind, Except.bind] at h
    obtain ⟨rfl, -⟩ := Prod.mk.inj (Except.ok.inj h)
    obtain ⟨hkeeps, hagain⟩ := settled_node hv
    obtain ⟨hkeepRest, hagainRest⟩ := ih hrest
    refine ⟨.cons hkeeps hkeepRest, ?_⟩
    simp [nodes, hagain, hagainRest, bind, Except.bind]

end Migration

/-! ## Payloads -/

/-- A payload and what migration makes of it. -/
structure IsSettled (fields migrated : Entries Value) : Prop where
  /-- migrating it again changes nothing, and there is nothing to note -/
  again : Migration.payload migrated = .ok (migrated, [])
  /-- its nodes are as many and stand in the same order, each one kept -/
  nodes : ∀ items, fields.lookup "nodes" = some (.list items) →
    ∃ items', migrated.lookup "nodes" = some (.list items')
      ∧ List.Forall₂ Migration.KeepsNode items items'
  /-- without a list of nodes all is as it was -/
  unlisted : (∀ items, fields.lookup "nodes" ≠ some (.list items)) → migrated = fields
  /-- what is not the nodes is as it was, but for edges that were missing -/
  other : ∀ name ≠ "nodes", migrated.lookup name = fields.lookup name
    ∨ name = "edges" ∧ fields.lookup "edges" = none ∧ migrated.lookup "edges" = some (.list [])

/-- A list of nodes that migration leaves as it is, with edges beside it. -/
theorem payload_of_settled {fields : Entries Value} {items : List Value}
    (hnodes : fields.lookup "nodes" = some (.list items))
    (hagain : Migration.nodes items = .ok (items, [])) (hedges : fields.has "edges" = true) :
    Migration.payload fields = .ok (fields, []) := by
  simp only [Migration.payload, hnodes, hagain, bind, Except.bind]
  rw [put_of_lookup hnodes, if_pos hedges]

/-- A payload with a list of nodes gets the migrated one in its place, and edges. -/
theorem isSettled_of_nodes {fields migrated : Entries Value} {items items' : List Value}
    (hitems : fields.lookup "nodes" = some (.list items))
    (hkeeps : List.Forall₂ Migration.KeepsNode items items')
    (hagain : Migration.nodes items' = .ok (items', []))
    (hnodes : migrated.lookup "nodes" = some (.list items')) (hedges : migrated.has "edges" = true)
    (hother : ∀ name ≠ "nodes", migrated.lookup name = fields.lookup name
      ∨ name = "edges" ∧ fields.lookup "edges" = none ∧ migrated.lookup "edges" = some (.list [])) :
    IsSettled fields migrated where
  again := payload_of_settled hnodes hagain hedges
  nodes := by
    intro other hlist
    obtain rfl : items = other := Value.list.inj (Option.some.inj (hitems.symm.trans hlist))
    exact ⟨items', hnodes, hkeeps⟩
  unlisted := fun h => absurd hitems (h items)
  other := hother

/-- Migration, where it succeeds, comes to rest at once. -/
theorem isSettled_payload {fields migrated : Entries Value} {notes : List Migration.Note}
    (h : Migration.payload fields = .ok (migrated, notes)) : IsSettled fields migrated := by
  by_cases hlist : ∃ items, fields.lookup "nodes" = some (.list items)
  · obtain ⟨items, hitems⟩ := hlist
    rcases hnodes : Migration.nodes items with fault | ⟨items', more⟩
    · simp [Migration.payload, hitems, hnodes, bind, Except.bind] at h
    obtain ⟨hkeeps, hagain⟩ := Migration.settled_nodes hnodes
    simp only [Migration.payload, hitems, hnodes, bind, Except.bind] at h
    obtain ⟨rfl, -⟩ := Prod.mk.inj (Except.ok.inj h)
    have hedges : (fields.put "nodes" (.list items')).lookup "edges" = fields.lookup "edges" := by
      simp [lookup_put]
    by_cases hhas : (fields.put "nodes" (.list items')).has "edges" = true
    · rw [if_pos hhas]
      refine isSettled_of_nodes hitems hkeeps hagain (by simp [lookup_put]) hhas
        fun name hname => ?_
      exact .inl (by simp [lookup_put, hname])
    · -- there are no edges, so they are added
      rw [if_neg hhas]
      have hnone : fields.lookup "edges" = none := by
        rwa [has, hedges, Option.not_isSome_iff_eq_none] at hhas
      refine isSettled_of_nodes hitems hkeeps hagain (by simp [lookup_put])
        (by simp [has, lookup_put]) fun name hname => ?_
      by_cases hname' : name = "edges"
      · exact .inr ⟨hname', hnone, by simp [lookup_put]⟩
      · exact .inl (by simp [lookup_put, hname, hname'])
  · simp only [not_exists] at hlist
    have hsame := payload_of_unlisted hlist
    obtain ⟨rfl, -⟩ := Prod.mk.inj (Except.ok.inj (hsame.symm.trans h))
    exact ⟨hsame, fun items hitems => absurd hitems (hlist items), fun _ => rfl,
      fun _ _ => .inl rfl⟩

/-- A node with a request block, a method in small letters one of which has two capitals, and
two items that are no nodes; the payload has no edges. -/
def untidy : Entries Value :=
  [("nodes", .list [.null,
    .object [("config", .object [("api", .object [("url", .text "https://example.com"),
        ("method", .text "straße"), ("api", .object [])]), ("bodyTemplate", .text "")]),
      ("type", .text "callApi")],
    .list []])]

/-- What it is after migration. -/
def tidied : Entries Value :=
  [("nodes", .list [.null,
    .object [("config", .object [("bodyTemplate", .text ""), ("url", .text "https://example.com"),
        ("method", .text "STRASSE")]), ("type", .text "callApi")],
    .list []]),
   ("edges", .list [])]

/-- Migration of these nodes comes to rest. -/
theorem isSettled_untidy : Migration.payload untidy = .ok (tidied, [.flattened "?"])
    ∧ IsSettled untidy tidied := by
  have hmigrated : Migration.payload untidy = .ok (tidied, [.flattened "?"]) := rfl
  exact ⟨hmigrated, isSettled_payload hmigrated⟩

end FormAutomation.Payload
