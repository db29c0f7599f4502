import FormAutomation.Payload.Load
import Mathlib.Data.List.Nodup

/-!
# What loading sees of a payload

The schema asks an object for the entry under a name and for nothing else, so two objects
that answer alike are read alike: with the same result, or with the same complaints at the
same places.

Migration, too, is told by what can be looked up afterwards.  An entry under its present
name stays; where there is none, the one in the older place is taken; the older place is
gone.  In what order entries stand, and in what order they were moved, makes no difference.
-/

namespace FormAutomation

/-! ## Lookups -/

namespace Entries

variable {α : Type}

/-- Two lists of entries answer alike. -/
def Agree (a b : Entries α) : Prop :=
  ∀ name, a.lookup name = b.lookup name

theorem lookup_filter (keep : String → Bool) (entries : Entries α) (name : String) :
    (entries.filter fun entry => keep entry.1).lookup name
      = if keep name then entries.lookup name else none := by
  induction entries with
  | nil => simp
  | cons entry rest ih =>
    by_cases hname : name = entry.1
    · subst hname
      cases hkeep : keep entry.1 with
      | true => simp [hkeep, lookup_cons]
      | false => simpa [hkeep] using ih
    · rw [lookup_cons, if_neg hname, ← ih, List.filter_cons]
      split
      · rw [lookup_cons, if_neg hname]
      · rfl

theorem lookup_eq_none_iff {entries : Entries α} {name : String} :
    entries.lookup name = none ↔ ∀ entry ∈ entries, entry.1 ≠ name := by
  rw [List.lookup_eq_none_iff]
  constructor
  · intro h entry hentry hname
    simpa [hname] using h entry hentry
  · intro h entry hentry
    simpa using (h entry hentry).symm

/-- Under changed names an entry is found if no other one goes by its new name. -/
theorem lookup_map_names {rename : String → String} {entries : Entries α} {name target : String}
    (h : ∀ entry ∈ entries, rename entry.1 = target ↔ entry.1 = name) :
    (entries.map fun entry => (rename entry.1, entry.2)).lookup target = entries.lookup name := by
  induction entries with
  | nil => rfl
  | cons entry rest ih =>
    have hfirst := h entry List.mem_cons_self
    rw [List.map_cons, lookup_cons, lookup_cons,
      ih fun entry hentry => h entry (List.mem_cons_of_mem _ hentry)]
    simp only [eq_comm (a := target), eq_comm (a := name), hfirst]

theorem lookup_without (entries : Entries α) (removed name : String) :
    (entries.without removed).lookup name
      = if name = removed then none else entries.lookup name := by
  rw [without, lookup_filter (fun name => name ≠ removed)]
  by_cases hname : name = removed
  · simp [hname]
  · simp [hname]

end Entries

namespace Payload

open Entries

/-! ## The schema -/

namespace Schema

open Checked

variable {α : Type} {a b : Entries Value} {location : List String} {key : Key}

theorem find_congr (hw : a.lookup key.written = b.lookup key.written)
    (ho : a.lookup key.other = b.lookup key.other) : find a key = find b key := by
  simp only [find, hw, ho]

theorem required_single_congr {name : String} {read : Reader α}
    (h : a.lookup name = b.lookup name) :
    required a location (.single name) read = required b location (.single name) read := by
  simp only [required, find, Key.single, h]

theorem optional_congr {read : Reader α} {default : α}
    (hw : a.lookup key.written = b.lookup key.written)
    (ho : a.lookup key.other = b.lookup key.other) :
    optional a location key default read = optional b location key default read := by
  simp only [optional, find_congr hw ho]

theorem optional_single_congr {name : String} {read : Reader α} {default : α}
    (h : a.lookup name = b.lookup name) :
    optional a location (.single name) default read
      = optional b location (.single name) default read :=
  optional_congr h h

/-- Configurations that answer alike are read alike. -/
theorem action_congr (h : Agree a b) (kind : NodeKind) (location : List String) :
    action kind location a = action kind location b := by
  have hoptional : ∀ {α : Type} {location} {key : Key} {default : α} {read},
      optional a location key default read = optional b location key default read :=
    optional_congr (h _) (h _)
  cases kind <;> simp only [action, endpoint, optionSource, hoptional]

end Schema

/-! ## Migration -/

namespace Migration

theorem lookup_takeOver (block config : Entries Value) (key name : String) :
    (takeOver block config key).lookup name
      = if name = key then (config.lookup name).or (block.lookup name)
        else config.lookup name := by
  unfold takeOver has
  split
  · next v hv =>
    cases hc : config.lookup key with
    | some w =>
      by_cases hname : name = key
      · simp [hname, hc]
      · simp [hname]
    | none =>
      by_cases hname : name = key
      · simp [hname, hc, hv, lookup_put]
      · simp [hname, lookup_put]
  · next hv =>
    by_cases hname : name = key
    · simp [hname, hv]
    · simp [hname]

theorem lookup_foldl_takeOver (block : Entries Value) (name : String) (keys : List String) :
    ∀ config : Entries Value, (keys.foldl (takeOver block) config).lookup name
      = if name ∈ keys then (config.lookup name).or (block.lookup name)
        else config.lookup name := by
  induction keys with
  | nil => exact fun _ => rfl
  | cons key rest ih =>
    intro config
    rw [List.foldl_cons, ih, lookup_takeOver]
    by_cases hname : name = key
    · subst hname
      rw [if_pos rfl, if_pos List.mem_cons_self]
      split
      · rw [Option.or_assoc, Option.or_self]
      · rfl
    · simp [hname]

theorem lookup_rename (node : String) (config : Entries Value) {older present : String}
    (h : older ≠ present) (name : String) :
    (rename node config older present).1.lookup name
      = if name = older then none
        else if name = present then (config.lookup present).or (config.lookup older)
        else config.lookup name := by
  unfold rename has
  split
  · next hnone =>
    split
    · next hname => rw [hname, hnone]
    · split
      · next hname => rw [hname, hnone, Option.or_none]
      · rfl
  · next v hv =>
    dsimp only
    rw [lookup_without, if_neg h.symm]
    cases hp : config.lookup present with
    | some w =>
      rw [Option.isSome_some, if_pos rfl, lookup_without]
      by_cases hname : name = present
      · subst hname
        simp [h.symm, hp]
      · simp [hname]
    | none =>
      rw [if_neg (by simp), lookup_put, lookup_without]
      by_cases hname : name = present
      · subst hname
        simp [h.symm, hv]
      · simp [hname]

/-- The older name of an entry among renamings. -/
def olderName? (renamings : List (String × String)) (name : String) : Option String :=
  (renamings.find? (·.2 == name)).map (·.1)

theorem olderName?_eq_none {renamings : List (String × String)} {name : String}
    (h : name ∉ renamings.map (·.2)) : olderName? renamings name = none := by
  rw [olderName?, Option.map_eq_none_iff, List.find?_eq_none]
  intro pair hpair hname
  exact h (beq_iff_eq.1 hname ▸ List.mem_map_of_mem hpair)

theorem mem_of_olderName? {renamings : List (String × String)} {name older : String}
    (h : olderName? renamings name = some older) : (older, name) ∈ renamings := by
  obtain ⟨pair, hpair, rfl⟩ := Option.map_eq_some_iff.1 h
  have hname := List.find?_some hpair
  rw [beq_iff_eq] at hname
  rw [← hname]
  exact List.mem_of_find?_eq_some hpair

/-- No name stands in the renamings twice. -/
structure Apart (renamings : List (String × String)) : Prop where
  /-- neither as an older name -/
  older : (renamings.map (·.1)).Nodup
  /-- nor as a present one -/
  present : (renamings.map (·.2)).Nodup
  /-- nor as both -/
  disjoint : ∀ name ∈ renamings.map (·.1), name ∉ renamings.map (·.2)

/-- An older name stands for one present name only. -/
theorem Apart.olderName?_inj {renamings : List (String × String)} (h : Apart renamings)
    {name name' older : String} (hname : olderName? renamings name = some older)
    (hname' : olderName? renamings name' = some older) : name = name' := by
  have hpair := List.inj_on_of_nodup_map h.older (mem_of_olderName? hname)
    (mem_of_olderName? hname') rfl
  exact congrArg (·.2) hpair

/-- An entry that stands under its older name moves to its present one, unless that is taken. -/
theorem lookup_renameAll (node name : String) :
    ∀ {renamings : List (String × String)}, Apart renamings → ∀ config : Entries Value,
      (renameAll node renamings config).1.lookup name
        = if name ∈ renamings.map (·.1) then none
          else (config.lookup name).or
            ((olderName? renamings name).bind fun older => config.lookup older)
  | [], _, config => by simp [renameAll, olderName?]
  | (older, present) :: rest, h, config => by
    obtain ⟨holder, holders⟩ := List.nodup_cons.1 h.older
    obtain ⟨hpresent, hpresents⟩ := List.nodup_cons.1 h.present
    have hfirst := h.disjoint older List.mem_cons_self
    have hrest := fun name hmem => h.disjoint name (List.mem_cons_of_mem older hmem)
    simp only [List.map_cons, List.mem_cons, not_or] at hfirst hrest
    obtain ⟨hne, holder'⟩ := hfirst
    have hpresent' : present ∉ rest.map (·.1) := fun hmem => (hrest present hmem).1 rfl
    have hlater := lookup_renameAll node name
      ⟨holders, hpresents, fun name hname => (hrest name hname).2⟩
      (rename node config older present).1
    have hrename := lookup_rename node config hne
    change (renameAll node rest (rename node config older present).1).1.lookup name = _
    rw [hlater]
    -- the older name is gone for good, the present one is filled once, any other stays
    by_cases hname : name = older
    · subst hname
      simp [hrename, olderName?_eq_none holder']
    · by_cases hname' : name = present
      · subst hname'
        have hfind : olderName? ((older, name) :: rest) name = some older := by
          simp [olderName?]
        rw [if_neg hpresent', olderName?_eq_none hpresent, hrename, if_neg hname, if_pos rfl, hfind,
          if_neg (by simpa [hname] using hpresent')]
        simp
      · have hfind : olderName? ((older, present) :: rest) name = olderName? rest name := by
          simp [olderName?, Ne.symm hname']
        have hbind : (olderName? rest name).bind
              (fun other => (rename node config older present).1.lookup other)
            = (olderName? rest name).bind fun other => config.lookup other := by
          cases ho : olderName? rest name with
          | none => rfl
          | some other =>
            have hother := List.mem_map_of_mem (f := (·.1)) (mem_of_olderName? ho)
            have hother' : other ≠ older := by
              rintro rfl
              exact holder hother
            have hother'' : other ≠ present := by
              rintro rfl
              exact hpresent' hother
            simp [hrename, hother', hother'']
        rw [hbind, hfind, hrename, if_neg hname, if_neg hname']
        simp only [List.map_cons, List.mem_cons, hname, false_or]

/-! ## Where entries may stand -/

/-- The places that a configuration in its present shape does not use: the request block, or
the older names of entries. -/
def olderPlaces (type : Value) : List String :=
  if hasRequestBlock type then ["api"] else (renamings type).map (·.1)

/-- What stands in the older place for a name. -/
def formerValue? (type : Value) (config : Entries Value) (name : String) : Option Value :=
  if hasRequestBlock type then
    if name ∈ requestKeys then (objectFields (config.lookup "api")).lookup name else none
  else (olderName? (renamings type) name).bind fun older => config.lookup older

/-- A request block, if there is one where it counts, is an object. -/
def HasPlainBlock (type : Value) (config : Entries Value) : Prop :=
  hasRequestBlock type = true →
    config.lookup "api" = none ∨ ∃ block, config.lookup "api" = some (.object block)

/-- An entry with the name of a method in capitals. -/
def raised (name : String) (v : Value) : Value :=
  if name = "method" then
    match v with
    | .text s => .text (Text.upper s)
    | v => v
  else v

theorem apart_renamings (type : Value) : Apart (renamings type) := by
  unfold renamings
  split
  · split <;> exact ⟨by decide, by decide, by decide⟩
  · exact ⟨by decide, by decide, by decide⟩

theorem renamings_of_hasRequestBlock {type : Value} (h : hasRequestBlock type = true) :
    renamings type = [] := by
  unfold hasRequestBlock at h
  split at h
  · simp only [Bool.or_eq_true, beq_iff_eq] at h
    rcases h with rfl | rfl
    · rfl
    · rfl
  · cases h

/-- Where a request block is dissolved, its entries fill what was left open. -/
theorem lookup_flatten (node : String) {type : Value} (config : Entries Value) {name : String}
    (h : hasRequestBlock type = true) (hname : name ∉ olderPlaces type) :
    (flatten node type config).1.lookup name
      = (config.lookup name).or (formerValue? type config name) := by
  have hname' : name ≠ "api" := by simpa [olderPlaces, h] using hname
  rw [formerValue?, if_pos h]
  unfold flatten
  split
  · next block hblock =>
    by_cases hkey : name ∈ requestKeys
    · simp [lookup_foldl_takeOver, lookup_without, hname', hkey, hblock, objectFields]
    · simp [lookup_foldl_takeOver, lookup_without, hname', hkey]
  · next hno =>
    -- what is no block has no entries
    have hnone : (objectFields (config.lookup "api")).lookup name = none := by
      unfold objectFields
      split
      · next block hblock => exact absurd hblock (hno block h)
      · rfl
    simp [hnone]

/-- A block that is one is gone. -/
theorem lookup_flatten_api (node : String) {type : Value} {config : Entries Value}
    (h : hasRequestBlock type = true) (hblock : HasPlainBlock type config) :
    (flatten node type config).1.lookup "api" = none := by
  have hapi : "api" ∉ requestKeys := by decide
  rcases hblock h with hnone | ⟨block, hsome⟩
  · simp [flatten, h, hnone]
  · simp [flatten, h, hsome, lookup_foldl_takeOver, lookup_without, hapi]

theorem lookup_raiseMethod (config : Entries Value) (name : String) :
    (raiseMethod config).lookup name = (config.lookup name).map (raised name) := by
  unfold raiseMethod raised
  split
  · next s hs =>
    rw [lookup_put]
    by_cases hname : name = "method"
    · simp [hname, hs]
    · simp [hname]
  · next hother =>
    by_cases hname : name = "method"
    · subst hname
      cases hm : config.lookup "method" with
      | none => rfl
      | some v =>
        cases v with
        | text s => exact absurd hm (hother s)
        | _ => simp
    · simp [hname]

/-- What a configuration says under a name: what stands there, or in the older place. -/
def said (type : Value) (config : Entries Value) (name : String) : Option Value :=
  ((config.lookup name).or (formerValue? type config name)).map (raised name)

/-- Once it was migrated, it stands there. -/
theorem lookup_config_of_not_mem (node : String) {type : Value} (older : Entries Value)
    {name : String} (hname : name ∉ olderPlaces type) :
    (config node type older).1.lookup name = said type older name := by
  change (raiseMethod (renameAll node (renamings type) (flatten node type older).1).1).lookup name
    = _
  rw [lookup_raiseMethod, said]
  -- no type has both a request block and older names
  by_cases h : hasRequestBlock type = true
  · rw [renamings_of_hasRequestBlock h, renameAll, lookup_flatten node older h hname]
  · have hflat : flatten node type older = (older, []) := by
      simp [flatten, h]
    have hrenamed : name ∉ (renamings type).map (·.1) := by
      rwa [olderPlaces, if_neg h] at hname
    rw [hflat, lookup_renameAll node name (apart_renamings type), if_neg hrenamed, formerValue?,
      if_neg h]

/-- The older places are empty then. -/
theorem lookup_config (node : String) {type : Value} {older : Entries Value}
    (hblock : HasPlainBlock type older) (name : String) :
    (config node type older).1.lookup name
      = if name ∈ olderPlaces type then none else said type older name := by
  split
  · next hname =>
    change (raiseMethod (renameAll node (renamings type) (flatten node type older).1).1).lookup name
      = _
    rw [lookup_raiseMethod]
    by_cases h : hasRequestBlock type = true
    · rw [olderPlaces, if_pos h, List.mem_singleton] at hname
      rw [renamings_of_hasRequestBlock h, renameAll, hname, lookup_flatten_api node h hblock]
      rfl
    · rw [olderPlaces, if_neg h] at hname
      rw [lookup_renameAll node name (apart_renamings type), if_pos hname]
      rfl
  · next hname => exact lookup_config_of_not_mem node older hname

end Migration

end Payload

end FormAutomation
