import FormAutomation.Execution
import FormAutomation.Proofs.Payload.Lookup
import Mathlib.Data.List.Induction

/-!
# Values set at once

A node that sets values goes through its mapping from the first entry to the last, but all that
it reads it reads in the context that it was executed in.  So the entries do not see what other
entries set, and their order matters only among those of one target, of which the last one is
left: two fields can be swapped.

What is set in this way is called a *batch* here; by what is asked of one, it is told up to the
order of its entries.
-/

namespace FormAutomation

/-! ## Entries under distinct names -/

namespace Entries

variable {α : Type} {a b entries : Entries α} {name : String}

theorem mem_names_iff : name ∈ entries.names ↔ entries.lookup name ≠ none := by
  rw [Ne, lookup_eq_none_iff, names, List.mem_map]
  simp

theorem nodup_put (h : entries.names.Nodup) (name : String) (v : α) :
    (put entries name v).names.Nodup := by
  rw [names_put]
  split
  · exact h
  · next hnew =>
    refine List.nodup_append.2 ⟨h, List.nodup_singleton name, ?_⟩
    rintro old hold last hlast rfl
    exact hnew (List.mem_singleton.1 hlast ▸ hold)

/-- Under distinct names an entry is there exactly if it is found. -/
theorem mem_iff_lookup (h : entries.names.Nodup) {v : α} :
    (name, v) ∈ entries ↔ entries.lookup name = some v := by
  induction entries with
  | nil => simp
  | cons entry rest ih =>
    obtain ⟨hfirst, hrest⟩ := List.nodup_cons.1 h
    rw [lookup_cons, List.mem_cons, ih hrest]
    by_cases hname : name = entry.1
    · subst hname
      -- no later entry has the name of the first one
      have hnone : rest.lookup entry.1 = none := by
        by_contra hsome
        exact hfirst (mem_names_iff.2 hsome)
      simp [hnone, Prod.ext_iff, eq_comm]
    · simp [hname, Prod.ext_iff]

/-- Entries under distinct names that answer alike are the same but for their order. -/
theorem Agree.perm (h : Agree a b) (ha : a.names.Nodup) (hb : b.names.Nodup) : a.Perm b := by
  refine (List.perm_ext_iff_of_nodup ha.of_map hb.of_map).2 ?_
  rintro ⟨name, v⟩
  rw [mem_iff_lookup ha, mem_iff_lookup hb, h name]

end Entries

/-! ## The entries of a mapping -/

/-- The entry is the last one of the mapping for its target. -/
def IsLastOf (mapping : List Assignment) (assignment : Assignment) : Prop :=
  ∃ before after, mapping = before ++ assignment :: after
    ∧ ∀ later ∈ after, later.target ≠ assignment.target

/-- A mapping has the entries of another, and those of each target in the same order. -/
structure Rearranges (other mapping : List Assignment) : Prop where
  /-- the entries are the same -/
  perm : other.Perm mapping
  /-- those of one target come one after the other in the same way -/
  order : ∀ target, other.filter (·.target = target) = mapping.filter (·.target = target)

/-- The values are set at once: those of the last entries for the targets that are not empty,
all read in one context. -/
structure IsBatch (mapping : List Assignment) (context : Context) (values : Entries Value) :
    Prop where
  /-- no target is set twice -/
  nodup : values.names.Nodup
  /-- the targets that are not empty are set, and nothing else -/
  mem_names_iff : ∀ name, name ∈ values.names
    ↔ name ≠ "" ∧ ∃ assignment ∈ mapping, assignment.target = name
  /-- each has what the source of its last entry is read as in the context -/
  value : ∀ assignment, IsLastOf mapping assignment → assignment.target ≠ "" →
    values.lookup assignment.target = some (context.resolveSource assignment.source)

section

variable {mapping other : List Assignment} {context : Context} {values values' : Entries Value}

/-- Going through one more entry sets its target, unless that is empty. -/
theorem assignments_append (mapping : List Assignment) (assignment : Assignment)
    (context : Context) :
    assignments (mapping ++ [assignment]) context
      = if assignment.target = "" then assignments mapping context
        else (assignments mapping context).put assignment.target
          (context.resolveSource assignment.source) := by
  by_cases h : assignment.target = ""
  · simp [assignments, h]
  · simp [assignments, h, Entries.ofList, Entries.overlay]

theorem nodup_assignments (mapping : List Assignment) (context : Context) :
    (assignments mapping context).names.Nodup := by
  induction mapping using List.reverseRecOn with
  | nil => exact List.nodup_nil
  | append_singleton mapping assignment ih =>
    rw [assignments_append]
    split
    · exact ih
    · exact Entries.nodup_put ih _ _

/-- A target has what the last entry for it reads. -/
theorem lookup_assignments (mapping : List Assignment) (context : Context) (target : String) :
    (assignments mapping context).lookup target
      = if target = "" then none
        else (mapping.filter (·.target = target)).getLast?.map
          (context.resolveSource ·.source) := by
  induction mapping using List.reverseRecOn with
  | nil => simp [assignments, Entries.ofList, Entries.overlay]
  | append_singleton mapping assignment ih =>
    rw [assignments_append, List.filter_append]
    by_cases htarget : assignment.target = target
    · subst htarget
      split
      · next hempty => rw [ih, if_pos hempty]
      · simp [Entries.lookup_put]
    · have hother : target ≠ assignment.target := fun h => htarget h.symm
      split
      · simp [htarget, ih]
      · simp [htarget, hother, Entries.lookup_put, ih]

/-- The last entry for a target is the last of its entries. -/
theorem IsLastOf.getLast?_eq {assignment : Assignment} (h : IsLastOf mapping assignment) :
    (mapping.filter (·.target = assignment.target)).getLast? = some assignment := by
  obtain ⟨before, after, rfl, hafter⟩ := h
  have hnone : after.filter (·.target = assignment.target) = [] := by
    rw [List.filter_eq_nil_iff]
    intro later hlater
    simpa using hafter later hlater
  rw [List.filter_append, List.filter_cons_of_pos (by simp), hnone]
  simp

/-- What a mapping sets, it sets at once. -/
theorem isBatch_assignments (mapping : List Assignment) (context : Context) :
    IsBatch mapping context (assignments mapping context) where
  nodup := nodup_assignments mapping context
  mem_names_iff := by
    intro name
    rw [Entries.mem_names_iff, lookup_assignments]
    by_cases hname : name = ""
    · simp [hname]
    · rw [if_neg hname, Ne, Option.map_eq_none_iff, List.getLast?_eq_none_iff,
        List.filter_eq_nil_iff]
      simp [hname]
  value := by
    intro assignment hlast htarget
    rw [lookup_assignments, if_neg htarget, hlast.getLast?_eq]
    rfl

/-- Rearranging a mapping changes nothing but the order in which the values come. -/
theorem Rearranges.perm_assignments (h : Rearranges other mapping) (context : Context) :
    (assignments other context).Perm (assignments mapping context) := by
  refine Entries.Agree.perm ?_ (nodup_assignments _ _) (nodup_assignments _ _)
  intro name
  rw [lookup_assignments, lookup_assignments, h.order]

end

/-! ## Nodes that set values -/

/-- What a node does that sets these values: it tells them, sets them on the form and in the
context, and does nothing else. -/
def settingEffect (values : Entries Value) : Effect where
  report := .value (.object values)
  fieldUpdates := values
  patch := values

variable {σ : Type}

/-- The execution of a node with a mapping succeeds and sets a batch. -/
structure SetsBatch (mapping : List Assignment) (context : Context) (state : σ)
    (execution : Execution σ) (values : Entries Value) : Prop where
  /-- the values are told, and set on the form and in the context -/
  outcome : execution.outcome = .success (settingEffect values)
  /-- they are read in the context of the execution -/
  batch : IsBatch mapping context values
  /-- nothing is asked for -/
  request : execution.request = none
  /-- so the caller's state is kept -/
  caller : execution.caller = state

theorem execute_of_setData {node : Node} {mapping : List Assignment}
    (h : node.action = .setData mapping) (context : Context) (caller? : Option (Caller σ))
    (state : σ) :
    SetsBatch mapping context state (node.execute context caller? state)
      (assignments mapping context) := by
  have hexecute : node.execute context caller? state
      = { outcome := .success (settingEffect (assignments mapping context)), request := none
          delay := .zero false, caller := state } := by
    rw [Node.execute, h]
    rfl
  rw [hexecute]
  exact ⟨rfl, isBatch_assignments mapping context, rfl, rfl⟩

/-- A node that sets values sets them at once, and so does one with a rearranged mapping, the
same ones. -/
theorem setsBatch_execute {node : Node} {mapping : List Assignment}
    (h : node.action = .setData mapping) (context : Context) (caller? : Option (Caller σ))
    (state : σ) :
    ∃ values, SetsBatch mapping context state (node.execute context caller? state) values
      ∧ ∀ (twin : Node) (other : List Assignment), twin.action = .setData other →
        Rearranges other mapping → ∃ values',
          SetsBatch other context state (twin.execute context caller? state) values'
            ∧ values'.Perm values := by
  refine ⟨_, execute_of_setData h context caller? state, ?_⟩
  intro twin other htwin hother
  exact ⟨_, execute_of_setData htwin context caller? state, hother.perm_assignments context⟩

/-- Two values are swapped, and one of them is noted. -/
def swapping : List Assignment :=
  [⟨"low", "high"⟩, ⟨"high", "low"⟩, ⟨"low", ""⟩, ⟨"high", "note"⟩, ⟨"low", "note"⟩]

/-- The entries for the note come first. -/
def notingFirst : List Assignment :=
  [⟨"high", "note"⟩, ⟨"low", "note"⟩, ⟨"high", "low"⟩, ⟨"low", "high"⟩, ⟨"low", ""⟩]

theorem rearranges_notingFirst : Rearranges notingFirst swapping := by
  refine ⟨by decide, fun target => ?_⟩
  by_cases hnote : target = "note"
  · subst hnote
    rfl
  · -- each of the other targets has one entry
    simp only [notingFirst, swapping, List.filter_cons, List.filter_nil]
    grind

/-- A node with this mapping. -/
def Node.assigning (mapping : List Assignment) : Node where
  id := "set"
  label := ""
  action := .setData mapping
  id_ne := by decide

/-- What is set for one of the two values is not seen by the other one, nor by the note. -/
theorem setsBatch_execute_swapping :
    (Node.assigning swapping).action = .setData swapping
      ∧ (Node.assigning notingFirst).action = .setData notingFirst
      ∧ Rearranges notingFirst swapping
      ∧ ∃ values values',
        SetsBatch swapping [("low", .int 9), ("high", .int 1)] ()
            ((Node.assigning swapping).execute [("low", .int 9), ("high", .int 1)] none ()) values
          ∧ SetsBatch notingFirst [("low", .int 9), ("high", .int 1)] ()
            ((Node.assigning notingFirst).execute [("low", .int 9), ("high", .int 1)] none ()) values'
          ∧ values'.Perm values ∧ values.lookup "low" = some (.int 1)
          ∧ values.lookup "high" = some (.int 9) ∧ values.lookup "note" = some (.int 9) := by
  have haction : (Node.assigning swapping).action = .setData swapping := rfl
  obtain ⟨values, hvalues, htwins⟩ := setsBatch_execute haction
    [("low", .int 9), ("high", .int 1)] (none : Option (Caller Unit)) ()
  obtain ⟨values', hvalues', hperm⟩ :=
    htwins (.assigning notingFirst) notingFirst rfl rearranges_notingFirst
  refine ⟨rfl, rfl, rearranges_notingFirst, values, values', hvalues, hvalues', hperm, ?_, ?_, ?_⟩
  · exact hvalues.batch.value ⟨"high", "low"⟩ ⟨[_], _, rfl, by decide⟩ (by decide)
  · exact hvalues.batch.value ⟨"low", "high"⟩ ⟨[], _, rfl, by decide⟩ (by decide)
  · exact hvalues.batch.value ⟨"low", "note"⟩ ⟨[_, _, _, _], _, rfl, by decide⟩ (by decide)

end FormAutomation
