import FormAutomation.Proofs.Payload.Lookup
import FormAutomation.Proofs.Text.Case

/-!
# Configurations in an older shape

A configuration may say what it says in an older shape: some entries of a request stand in
a block of their own, some entries go by older names, and the letters of a method are as
someone typed them.  In what order the entries stand is left open.  Whichever of these were
chosen, migration leads to configurations that answer alike.

There is such a shape for any choice of entries that are to stand where they used to.
-/

namespace FormAutomation.Payload

open Entries Migration

/-! ## One configuration in two shapes -/

/-- The entry says the same; a method may say it in other letters. -/
inductive SaysSame (name : String) : Option Value → Option Value → Prop where
  /-- it is the same -/
  | same (v? : Option Value) : SaysSame name v? v?
  /-- it is a method in other letters -/
  | letters {s t : String} (hname : name = "method") (h : Text.SameLetters s t) :
      SaysSame name (some (.text s)) (some (.text t))

/-- What an entry says is said in one of two places, and the other one is empty. -/
def StandsIn (name : String) (said? present? former? : Option Value) : Prop :=
  (SaysSame name said? present? ∧ former? = none) ∨ (present? = none ∧ SaysSame name said? former?)

/-- A configuration of a type in its present shape, and the same one with any of its entries
in the places where they used to stand. -/
structure Recodes (type : Value) (config older : Entries Value) : Prop where
  /-- nothing stands in an older place to begin with -/
  current : ∀ name ∈ olderPlaces type, config.lookup name = none
  /-- what used to hold a request is an object -/
  plain : HasPlainBlock type older
  /-- every entry stands in its present place or in its older one -/
  entries : ∀ name ∉ olderPlaces type,
    StandsIn name (config.lookup name) (older.lookup name) (formerValue? type older name)

theorem SaysSame.map_raised {name : String} {v? w? : Option Value} (h : SaysSame name v? w?) :
    v?.map (raised name) = w?.map (raised name) := by
  cases h with
  | same => rfl
  | letters hname h =>
    subst hname
    simp [raised, h.upper_eq]

theorem StandsIn.or {name : String} {said? present? former? : Option Value}
    (h : StandsIn name said? present? former?) : SaysSame name said? (present?.or former?) := by
  rcases h with ⟨h, rfl⟩ | ⟨rfl, h⟩
  · rwa [Option.or_none]
  · rwa [Option.none_or]

variable {type : Value} {config older : Entries Value}

theorem formerValue?_of_current (h : ∀ name ∈ olderPlaces type, config.lookup name = none)
    (name : String) : formerValue? type config name = none := by
  unfold formerValue?
  split
  · next hblock =>
    rw [h "api" (by simp [olderPlaces, hblock])]
    split
    · rfl
    · rfl
  · next hblock =>
    cases ho : olderName? (renamings type) name with
    | none => rfl
    | some former =>
      refine h former ?_
      rw [olderPlaces, if_neg hblock]
      exact List.mem_map_of_mem (f := (·.1)) (mem_of_olderName? ho)

/-- The two shapes of a configuration migrate to configurations that answer alike. -/
theorem Recodes.agree (h : Recodes type config older) (node node' : String) :
    Agree (Migration.config node type config).1 (Migration.config node' type older).1 := by
  intro name
  have hplain : HasPlainBlock type config := by
    intro hblock
    exact .inl (h.current "api" (by simp [olderPlaces, hblock]))
  rw [lookup_config node hplain, lookup_config node' h.plain, said, said,
    formerValue?_of_current h.current, Option.or_none]
  split
  · rfl
  · next hname => exact (h.entries name hname).or.map_raised

/-! ## From the present shape to an older one -/

/-- How a configuration is put into an older shape. -/
structure Recoding where
  /-- which entries go where they used to stand -/
  moves : String → Bool
  /-- how the name of a method is spelled -/
  spell : String → String
  /-- it is spelled as before but for letter case -/
  spelled : ∀ s, spell s = s ∨ Text.SameLetters s (spell s)

namespace Recoding

variable (recoding : Recoding)

/-- An entry with its method spelled. -/
def spellEntry (name : String) (v : Value) : Value :=
  if name = "method" then
    match v with
    | .text s => .text (recoding.spell s)
    | v => v
  else v

/-- A configuration with its method spelled. -/
def spellAll (config : Entries Value) : Entries Value :=
  config.map fun entry => (entry.1, recoding.spellEntry entry.1 entry.2)

/-- Whether an entry goes into the request block. -/
def movesKey (name : String) : Bool :=
  recoding.moves name && requestKeys.contains name

/-- The name under which an entry goes. -/
def nameOf (type : Value) (name : String) : String :=
  if recoding.moves name then (olderName? (renamings type) name).getD name else name

/-- A configuration in the older shape. -/
def apply (type : Value) (config : Entries Value) : Entries Value :=
  let spelled := recoding.spellAll config
  if hasRequestBlock type then
    spelled.filter (fun entry => !recoding.movesKey entry.1)
      ++ [("api", .object (spelled.filter fun entry => recoding.movesKey entry.1))]
  else spelled.map fun entry => (recoding.nameOf type entry.1, entry.2)

theorem lookup_spellAll (config : Entries Value) (name : String) :
    (recoding.spellAll config).lookup name
      = (config.lookup name).map (recoding.spellEntry name) := by
  induction config with
  | nil => rfl
  | cons entry rest ih =>
    change List.lookup name ((entry.1, _) :: recoding.spellAll rest) = _
    rw [lookup_cons, lookup_cons, ih]
    split
    · next hname => rw [hname]; rfl
    · rfl

theorem saysSame_spellAll (config : Entries Value) (name : String) :
    SaysSame name (config.lookup name) ((recoding.spellAll config).lookup name) := by
  rw [lookup_spellAll]
  cases config.lookup name with
  | none => exact .same none
  | some v =>
    unfold spellEntry
    by_cases hname : name = "method"
    · rw [Option.map_some, if_pos hname]
      cases v with
      | text s =>
        dsimp only
        rcases recoding.spelled s with hs | hs
        · rw [hs]
          exact .same _
        · exact .letters hname hs
      | _ => exact .same _
    · rw [Option.map_some, if_neg hname]
      exact .same _

/-- A request can be put into a block. -/
theorem recodes_block (hblock : hasRequestBlock type = true)
    (h : config.lookup "api" = none) : Recodes type config (recoding.apply type config) := by
  have hplaces : olderPlaces type = ["api"] := if_pos hblock
  have hsaid := recoding.saysSame_spellAll config
  have hapi : (recoding.spellAll config).lookup "api" = none := by
    rw [lookup_spellAll, h]
    rfl
  rw [apply, if_pos hblock]
  generalize recoding.spellAll config = spelled at hsaid hapi
  have hlookup : ∀ name, (spelled.filter (fun entry => !recoding.movesKey entry.1)
      ++ [("api", Value.object (spelled.filter fun entry => recoding.movesKey entry.1))]).lookup name
      = if name = "api" then some (.object (spelled.filter fun entry => recoding.movesKey entry.1))
        else if recoding.movesKey name then none else spelled.lookup name := by
    intro name
    rw [List.lookup_append, lookup_filter fun name => !recoding.movesKey name, lookup_cons]
    by_cases hname : name = "api"
    · simp [hname, hapi]
    · cases hmoves : recoding.movesKey name with
      | true => simp [hname]
      | false => simp [hname]
  refine ⟨?_, fun _ => .inr ⟨_, (hlookup "api").trans (if_pos rfl)⟩, ?_⟩
  · rw [hplaces]
    simpa using h
  · intro name hname
    rw [hplaces, List.mem_singleton] at hname
    rw [formerValue?, if_pos hblock, hlookup "api", if_pos rfl, hlookup name, if_neg hname,
      objectFields, lookup_filter fun name => recoding.movesKey name]
    cases hmoves : recoding.movesKey name with
    | true =>
      have hkey : name ∈ requestKeys := by
        simp only [movesKey, Bool.and_eq_true, List.contains_iff_mem] at hmoves
        exact hmoves.2
      rw [if_pos hkey]
      exact .inr ⟨rfl, hsaid name⟩
    | false =>
      refine .inl ⟨hsaid name, ?_⟩
      split
      · rfl
      · rfl

/-- An entry keeps its name, or it goes under its older one. -/
theorem nameOf_cases (type : Value) (name : String) :
    (recoding.nameOf type name = name
        ∧ (recoding.moves name = false ∨ olderName? (renamings type) name = none))
      ∨ ∃ older, olderName? (renamings type) name = some older ∧ recoding.moves name = true
        ∧ recoding.nameOf type name = older := by
  unfold nameOf
  cases hmoves : recoding.moves name with
  | false => exact .inl ⟨rfl, .inl rfl⟩
  | true =>
    cases ho : olderName? (renamings type) name with
    | none => exact .inl ⟨rfl, .inr rfl⟩
    | some older => exact .inr ⟨older, rfl, rfl, rfl⟩

/-- A present name is that of the entry which keeps it. -/
theorem nameOf_eq_present_iff {name : String} (h : name ∉ (renamings type).map (·.1))
    (other : String) :
    recoding.nameOf type other = name ↔ other = name ∧ recoding.nameOf type name = name := by
  constructor
  · intro he
    rcases recoding.nameOf_cases type other with ⟨hkeeps, -⟩ | ⟨older, ho, -, hgoes⟩
    · obtain rfl : other = name := hkeeps.symm.trans he
      exact ⟨rfl, he⟩
    · obtain rfl : older = name := hgoes.symm.trans he
      exact absurd (List.mem_map_of_mem (mem_of_olderName? ho)) h
  · rintro ⟨rfl, he⟩
    exact he

/-- An older name is that of the entry which goes under it. -/
theorem nameOf_eq_older_iff {name older other : String}
    (ho : olderName? (renamings type) name = some older)
    (h : other ∉ (renamings type).map (·.1)) :
    recoding.nameOf type other = older ↔ other = name ∧ recoding.moves name = true := by
  constructor
  · intro he
    rcases recoding.nameOf_cases type other with ⟨hkeeps, -⟩ | ⟨older', ho', hmoves, hgoes⟩
    · obtain rfl : other = older := hkeeps.symm.trans he
      exact absurd (List.mem_map_of_mem (mem_of_olderName? ho)) h
    · obtain rfl : older' = older := hgoes.symm.trans he
      obtain rfl := (apart_renamings type).olderName?_inj ho' ho
      exact ⟨rfl, hmoves⟩
  · rintro ⟨rfl, hmoves⟩
    simp [nameOf, hmoves, ho]

/-- Entries can be put under their older names. -/
theorem recodes_names (hblock : ¬ hasRequestBlock type = true)
    (h : ∀ name ∈ olderPlaces type, config.lookup name = none) :
    Recodes type config (recoding.apply type config) := by
  have hplaces : olderPlaces type = (renamings type).map (·.1) := if_neg hblock
  have hsaid := recoding.saysSame_spellAll config
  have hspelled : ∀ name ∈ (renamings type).map (·.1),
      (recoding.spellAll config).lookup name = none := by
    intro name hname
    rw [lookup_spellAll, h name (hplaces ▸ hname)]
    rfl
  refine ⟨h, fun h => absurd h hblock, ?_⟩
  rw [apply, if_neg hblock]
  generalize recoding.spellAll config = spelled at hsaid hspelled
  have hentries : ∀ entry ∈ spelled, entry.1 ∉ (renamings type).map (·.1) := by
    intro entry hentry hmem
    exact lookup_eq_none_iff.1 (hspelled entry.1 hmem) entry hentry rfl
  have hnone : ∀ {target}, (∀ entry ∈ spelled, recoding.nameOf type entry.1 ≠ target) →
      (spelled.map fun entry => (recoding.nameOf type entry.1, entry.2)).lookup target = none := by
    intro target htarget
    refine lookup_eq_none_iff.2 fun entry hentry => ?_
    obtain ⟨entry, hmem, rfl⟩ := List.mem_map.1 hentry
    exact htarget entry hmem
  intro name hname
  rw [hplaces] at hname
  rw [formerValue?, if_neg hblock]
  -- the entry keeps its name, or it leaves the present name free and goes under the older one
  rcases recoding.nameOf_cases type name with ⟨hkeeps, hstays⟩ | ⟨older, ho, hmoves, hgoes⟩
  · refine .inl ⟨?_, ?_⟩
    · rw [lookup_map_names fun entry _ => (recoding.nameOf_eq_present_iff hname entry.1).trans
        (and_iff_left hkeeps)]
      exact hsaid name
    · rcases ho : olderName? (renamings type) name with _ | older
      · rfl
      · refine hnone fun entry hentry he => ?_
        obtain ⟨-, hmoves⟩ := (recoding.nameOf_eq_older_iff ho (hentries entry hentry)).1 he
        rcases hstays with hstays | hstays
        · rw [hmoves] at hstays
          cases hstays
        · rw [ho] at hstays
          cases hstays
  · refine .inr ⟨hnone fun entry hentry he => ?_, ?_⟩
    · obtain ⟨-, hkeeps⟩ := (recoding.nameOf_eq_present_iff hname entry.1).1 he
      obtain rfl : older = name := hgoes.symm.trans hkeeps
      exact hname (List.mem_map_of_mem (mem_of_olderName? ho))
    · rw [ho, Option.bind_some, lookup_map_names fun entry hentry =>
        (recoding.nameOf_eq_older_iff ho (hentries entry hentry)).trans (and_iff_left hmoves)]
      exact hsaid name

/-- Whatever is chosen, a configuration in its present shape can be put into an older one. -/
theorem recodes_apply (h : ∀ name ∈ olderPlaces type, config.lookup name = none) :
    Recodes type config (recoding.apply type config) := by
  by_cases hblock : hasRequestBlock type = true
  · exact recoding.recodes_block hblock (h "api" (by simp [olderPlaces, hblock]))
  · exact recoding.recodes_names hblock h

end Recoding

end FormAutomation.Payload
