import FormAutomation.Proofs.Payload.Alike

/-!
# Which of several entries counts

What a configuration says in one respect may stand in up to three places: under the name
that is written back, in the older place for it, and under the other name of the field.
The first of these that holds something counts.  An entry that comes after one that counts
may be dropped, and loading tells no difference.

So the present name wins over the older place, but the other name does not.  Migration
fills the present name from the older place, as it looks for that name alone, and the
schema then prefers it to the other one.
-/

namespace FormAutomation.Payload

open Entries Migration

/-! ## What the schema asks a configuration for -/

namespace Schema

open Checked

/-- The fields of a request. -/
def endpointKeys : List Key :=
  [.single "url", .single "method", .single "headers", ⟨"bodyTemplate", "body_template"⟩]

/-- The fields of a configuration of a kind. -/
def keysOf : NodeKind → List Key
  | .trigger => [⟨"triggerType", "trigger_type"⟩, ⟨"triggerFieldId", "trigger_field_id"⟩]
  | .page => [⟨"pageId", "page_id"⟩]
  | .callApi => endpointKeys
  | .fetchOptions =>
    endpointKeys ++ [⟨"responsePath", "response_path"⟩, ⟨"labelKey", "label_key"⟩,
      ⟨"valueKey", "value_key"⟩, ⟨"targetFieldId", "target_field_id"⟩]
  | .setData => [.single "mapping"]
  | .showDialog => [.single "title", .single "message"]
  | .redirect => [.single "url", ⟨"newTab", "new_tab"⟩]
  | .condition => [.single "field", .single "operator", .single "value"]

/-- Configurations in which the same is found for every field are read alike. -/
theorem action_congr_of_find {kind : NodeKind} {a b : Entries Value}
    (h : ∀ key ∈ keysOf kind, find a key = find b key) (location : List String) :
    action kind location a = action kind location b := by
  cases kind <;> simp only [keysOf, endpointKeys, List.cons_append, List.nil_append,
    List.forall_mem_cons] at h <;> simp [action, endpoint, optionSource, optional, h]

/-- No field goes by an older name. -/
theorem not_mem_olderPlaces {kind : NodeKind} :
    ∀ key ∈ keysOf kind, key.written ∉ olderPlaces (.text kind.name)
      ∧ key.other ∉ olderPlaces (.text kind.name) := by
  cases kind <;> decide

/-- No two fields share a name. -/
theorem keysOf_apart {kind : NodeKind} :
    ∀ key ∈ keysOf kind, ∀ key' ∈ keysOf kind, key'.written = key.written
      ∨ key'.written ≠ key.other ∧ key'.other ≠ key.other := by
  cases kind <;> decide

end Schema

open Schema (Key find keysOf)

/-- Configurations that say the same for every field are alike; under its other name it does
not matter what a field says if the first one says something. -/
theorem configsAlike_of_said {kind : NodeKind} {config config' : Entries Value}
    (h : ∀ key ∈ keysOf kind,
      said (.text kind.name) config key.written = said (.text kind.name) config' key.written
        ∧ (said (.text kind.name) config key.written = none →
          said (.text kind.name) config key.other = said (.text kind.name) config' key.other)) :
    ConfigsAlike (.text kind.name) config config' := by
  intro kind' htype name name' location
  obtain rfl : kind = kind' := NodeKind.name_inj.1 (Value.text.inj htype)
  refine Schema.action_congr_of_find (fun key hkey => ?_) location
  obtain ⟨hwritten, hother⟩ := Schema.not_mem_olderPlaces key hkey
  obtain ⟨hsame, hsame'⟩ := h key hkey
  simp only [find, lookup_config_of_not_mem _ _ hwritten, lookup_config_of_not_mem _ _ hother,
    ← hsame]
  split
  · rfl
  · next hnone => rw [hsame' hnone]

/-! ## Entries in older places -/

/-- The entry in the older place for a name is dropped from the configuration of a node of a
type. -/
inductive DropsFormer (type : Value) (name : String) : Entries Value → Entries Value → Prop where
  /-- it stood in the request block, under its present name -/
  | block {config block : Entries Value} (hcounts : hasRequestBlock type = true)
      (hkey : name ∈ requestKeys) (hblock : config.lookup "api" = some (.object block)) :
      DropsFormer type name config (config.put "api" (.object (block.without name)))
  /-- it stood under an older name -/
  | renamed {config : Entries Value} {older : String} (h : (older, name) ∈ renamings type) :
      DropsFormer type name config (config.without older)

variable {type : Value} {name : String} {config config' : Entries Value}

/-- An older name of a type stands for a present name. -/
theorem olderName?_of_mem {older : String} (h : (older, name) ∈ renamings type) :
    olderName? (renamings type) name = some older := by
  rcases ho : (renamings type).find? (·.2 == name) with _ | pair
  · exact absurd (beq_self_eq_true name) (List.find?_eq_none.1 ho _ h)
  · have hname : pair.2 = name := by simpa using List.find?_some ho
    obtain rfl := List.inj_on_of_nodup_map (apart_renamings type).present
      (List.mem_of_find?_eq_some ho) h hname
    simp [olderName?, ho]

theorem not_hasRequestBlock_of_mem {pair : String × String} (h : pair ∈ renamings type) :
    ¬ hasRequestBlock type = true := by
  intro hblock
  rw [renamings_of_hasRequestBlock hblock] at h
  cases h

/-- Dropping an entry from its older place leaves all other entries where they are. -/
theorem DropsFormer.lookup_eq (h : DropsFormer type name config config') {other : String}
    (hother : other ∉ olderPlaces type) : config'.lookup other = config.lookup other := by
  cases h with
  | block hcounts =>
    have hne : other ≠ "api" := by simpa [olderPlaces, hcounts] using hother
    rw [lookup_put, if_neg hne]
  | renamed h =>
    have hne : other ∉ (renamings type).map (·.1) := by
      rwa [olderPlaces, if_neg (not_hasRequestBlock_of_mem h)] at hother
    rw [lookup_without, if_neg]
    rintro rfl
    exact hne (List.mem_map_of_mem h)

/-- Other entries in older places stay too. -/
theorem DropsFormer.formerValue?_eq (h : DropsFormer type name config config') {other : String}
    (hne : other ≠ name) : formerValue? type config' other = formerValue? type config other := by
  cases h with
  | block hcounts hkey hblock =>
    simp [formerValue?, hcounts, hblock, lookup_put, objectFields, lookup_without, hne]
  | @renamed older h =>
    have hblock := not_hasRequestBlock_of_mem h
    rw [formerValue?, formerValue?, if_neg hblock, if_neg hblock]
    rcases ho : olderName? (renamings type) other with _ | older'
    · rfl
    · rw [Option.bind_some, Option.bind_some, lookup_without, if_neg]
      rintro rfl
      exact hne ((apart_renamings type).olderName?_inj ho (olderName?_of_mem h))

/-- What stands in an older place depends on the older places alone. -/
theorem formerValue?_congr
    (h : ∀ place ∈ olderPlaces type, config'.lookup place = config.lookup place) (name : String) :
    formerValue? type config' name = formerValue? type config name := by
  unfold formerValue?
  split
  · next hblock => rw [h "api" (by simp [olderPlaces, hblock])]
  · next hblock =>
    rcases ho : olderName? (renamings type) name with _ | older
    · rfl
    · refine h older ?_
      rw [olderPlaces, if_neg hblock]
      exact List.mem_map_of_mem (mem_of_olderName? ho)

/-! ## Entries that do not count -/

/-- An entry is dropped from the configuration of a node of a type because another one counts
before it. -/
inductive Outranked : Value → Entries Value → Entries Value → Prop where
  /-- the entry in the older place for a field, as one stands under the name that is written
  back -/
  | former {kind : NodeKind} {key : Key} {config config' : Entries Value}
      (hkey : key ∈ keysOf kind) (hcounts : config.has key.written = true)
      (h : DropsFormer (.text kind.name) key.written config config') :
      Outranked (.text kind.name) config config'
  /-- the entry under the other name of a field, as one stands under the name that is written
  back or in the older place -/
  | other {kind : NodeKind} {key : Key} {config : Entries Value} (hkey : key ∈ keysOf kind)
      (hne : key.other ≠ key.written)
      (hcounts : config.has key.written = true
        ∨ (formerValue? (.text kind.name) config key.written).isSome = true) :
      Outranked (.text kind.name) config (config.without key.other)

/-- An entry that does not count makes no difference to a configuration. -/
theorem Outranked.configsAlike (h : Outranked type config config') :
    ConfigsAlike type config config' := by
  cases h with
  | @former kind key _ _ hkey hcounts h =>
    refine configsAlike_of_said fun key' hkey' => ?_
    obtain ⟨hwritten, hother⟩ := Schema.not_mem_olderPlaces key' hkey'
    have hsame : ∀ other ∉ olderPlaces (.text kind.name),
        said (.text kind.name) config other = said (.text kind.name) config' other := by
      intro other hplaces
      rw [said, said, h.lookup_eq hplaces]
      by_cases hne : other = key.written
      · -- what stands under this name counts before what stood in the older place
        obtain ⟨v, hv⟩ := Option.isSome_iff_exists.1 hcounts
        rw [hne, hv, Option.some_or, Option.some_or]
      · rw [h.formerValue?_eq hne]
    exact ⟨hsame _ hwritten, fun _ => hsame _ hother⟩
  | @other kind key _ hkey hne hcounts =>
    refine configsAlike_of_said fun key' hkey' => ?_
    have hformer (name : String) : formerValue? (.text kind.name) (config.without key.other) name
        = formerValue? (.text kind.name) config name := by
      refine formerValue?_congr (fun place hplace => ?_) name
      rw [lookup_without, if_neg]
      rintro rfl
      exact (Schema.not_mem_olderPlaces key hkey).2 hplace
    have hsame {name : String} (hname : name ≠ key.other) : said (.text kind.name) config name
        = said (.text kind.name) (config.without key.other) name := by
      rw [said, said, hformer, lookup_without, if_neg hname]
    rcases Schema.keysOf_apart key hkey key' hkey' with heq | ⟨hwritten, hother⟩
    · rw [heq]
      refine ⟨hsame hne.symm, fun hnone => ?_⟩
      -- the field says something without the entry that is dropped
      rw [said, Option.map_eq_none_iff, Option.or_eq_none_iff] at hnone
      simp [has, hnone.1, hnone.2] at hcounts
    · exact ⟨hsame hwritten, fun _ => hsame hother⟩

/-- Wherever in a payload an entry does not count, loading tells no difference when it is
dropped. -/
theorem load_outranked {payload payload' : Value}
    (h : OfObjects (OneListed "nodes" (OneConfig Outranked)) payload payload') :
    loadGraph payload' = loadGraph payload ∧ loadWorkflow payload' = loadWorkflow payload :=
  load_of_oneNode
    (fun _ _ => OneConfig.interchangeable fun _ _ _ => Outranked.configsAlike) h

/-- A payload of one node. -/
def ofNode (type : String) (config : Entries Value) : Value :=
  .object [("nodes", .list [.object [("id", .text "only"), ("type", .text type),
    ("config", .object config)]])]

/-- A payload of one node whose configuration is related to that of another one. -/
theorem ofObjects_ofNode {R : Value → Entries Value → Entries Value → Prop} {type : String}
    {config config' : Entries Value} (h : R (.text type) config config') :
    OfObjects (OneListed "nodes" (OneConfig R)) (ofNode type config) (ofNode type config') :=
  .intro rfl rfl (.intro rfl (.intro [] [] (.intro rfl h)))

/-- A request whose method is a number, and another method in its block. -/
def twoMethods : Value :=
  ofNode "callApi" [("api", .object [("method", .text "post")]), ("method", .int 1)]

/-- The same without the method in the block. -/
def oneMethod : Value :=
  ofNode "callApi" [("api", .object []), ("method", .int 1)]

/-- The method in the block does not count, though the other one cannot be read. -/
theorem load_outranked_method :
    OfObjects (OneListed "nodes" (OneConfig Outranked)) twoMethods oneMethod
      ∧ loadGraph oneMethod = loadGraph twoMethods
      ∧ loadWorkflow oneMethod = loadWorkflow twoMethods := by
  have hmember : (Key.single "method").written ∈ requestKeys := by decide
  have hblock : List.lookup "api" [("api", Value.object [("method", .text "post")]),
      ("method", .int 1)] = some (.object [("method", .text "post")]) := rfl
  have hdrop : DropsFormer (.text NodeKind.callApi.name) (Key.single "method").written
      [("api", .object [("method", .text "post")]), ("method", .int 1)]
      [("api", .object []), ("method", .int 1)] :=
    .block rfl hmember hblock
  have hkey : Key.single "method" ∈ keysOf .callApi := by simp [keysOf, Schema.endpointKeys]
  have h := ofObjects_ofNode (Outranked.former hkey rfl hdrop)
  exact ⟨h, load_outranked h⟩

/-- An entry is dropped from the older place for a field that is there, under either of its
names. -/
inductive Superseded : Value → Entries Value → Entries Value → Prop where
  /-- it is there under one of its names -/
  | intro {kind : NodeKind} {key : Key} {config config' : Entries Value} (hkey : key ∈ keysOf kind)
      (hcounts : config.has key.written = true ∨ config.has key.other = true)
      (h : DropsFormer (.text kind.name) key.written config config') :
      Superseded (.text kind.name) config config'

/-- A field that is there under its other name only does not win over the older place. -/
theorem load_superseded_ne :
    ¬ ∀ payload payload' : Value,
      OfObjects (OneListed "nodes" (OneConfig Superseded)) payload payload' →
        loadGraph payload' = loadGraph payload := by
  intro h
  have hdrop : DropsFormer (.text NodeKind.redirect.name) "newTab"
      [("new_tab", .bool true), ("redirectNewTab", .bool false)] [("new_tab", .bool true)] :=
    .renamed (by decide : ("redirectNewTab", "newTab") ∈ renamings (.text NodeKind.redirect.name))
  have hkey : Key.mk "newTab" "new_tab" ∈ keysOf .redirect := by simp [keysOf]
  have hload := h _ _ (ofObjects_ofNode (Superseded.intro hkey (.inr rfl) hdrop))
  have hactions := congrArg (fun loaded => loaded.toOption.map fun graph =>
    graph.nodes.map Node.action) hload
  revert hactions
  decide

end FormAutomation.Payload
