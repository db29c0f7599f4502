/-!
# Named entries in order

Objects, contexts, field updates and headers are all the same thing: entries
under distinct names, in the order in which the names first came.  Writing a
name that is there replaces its value and moves nothing; a new name goes to the
end.  Reading is `List.lookup`.
-/

namespace FormAutomation

universe u

/-- Named entries, in the order in which the names first came. -/
abbrev Entries (α : Type u) := List (String × α)

namespace Entries

variable {α : Type u}

/-- The entries with one name set to a value. -/
def put : Entries α → String → α → Entries α
  | [], name, a => [(name, a)]
  | (n, b) :: rest, name, a => if n = name then (name, a) :: rest else (n, b) :: put rest name a

/-- The entries without a name. -/
def without (entries : Entries α) (name : String) : Entries α :=
  entries.filter fun entry => entry.1 ≠ name

/-- The entries with those of a patch set one after the other. -/
def overlay (base patch : Entries α) : Entries α :=
  patch.foldl (fun entries entry => put entries entry.1 entry.2) base

/-- The entries of a list in which names may repeat: the first place and the
last value of each. -/
def ofList (pairs : List (String × α)) : Entries α :=
  overlay [] pairs

/-- The names in order. -/
def names (entries : Entries α) : List String :=
  entries.map (·.1)

/-- Whether a name is there. -/
def has (entries : Entries α) (name : String) : Bool :=
  (entries.lookup name).isSome

/-! ## What the operations do to a lookup -/

theorem lookup_cons (name : String) (entry : String × α) (rest : Entries α) :
    List.lookup name (entry :: rest)
      = if name = entry.1 then some entry.2 else List.lookup name rest := by
  by_cases h : name = entry.1
  · rw [List.lookup_cons, h]; simp
  · have : (name == entry.1) = false := by simpa using h
    rw [List.lookup_cons, this]; simp [h]

theorem lookup_put (entries : Entries α) (name : String) (a : α) (other : String) :
    (put entries name a).lookup other = if other = name then some a else entries.lookup other := by
  induction entries with
  | nil => simp [put, lookup_cons]
  | cons entry rest ih =>
    by_cases h : entry.1 = name
    · by_cases h' : other = name <;> simp [put, h, h', lookup_cons]
    · by_cases h' : other = entry.1
      · have : ¬ other = name := fun e => h (h'.symm.trans e)
        simp [put, h, h', lookup_cons]
      · simp [put, h, h', lookup_cons, ih]

theorem lookup_overlay (base patch : Entries α) (name : String) :
    (overlay base patch).lookup name
      = match patch.reverse.lookup name with
        | some a => some a
        | none => base.lookup name := by
  induction patch generalizing base with
  | nil => simp [overlay]
  | cons entry rest ih =>
    have step : overlay base (entry :: rest) = overlay (put base entry.1 entry.2) rest := rfl
    rw [step, ih, List.reverse_cons, lookup_put]
    clear ih step
    induction rest.reverse with
    | nil => by_cases h : name = entry.1 <;> simp [lookup_cons, h]
    | cons e es ih => by_cases h : name = e.1 <;> simp_all [lookup_cons]

theorem names_put (entries : Entries α) (name : String) (a : α) :
    names (put entries name a) = if name ∈ names entries then names entries
      else names entries ++ [name] := by
  induction entries with
  | nil => simp [put, names]
  | cons entry rest ih =>
    by_cases h : entry.1 = name
    · simp [put, h, names]
    · have h' : ¬ name = entry.1 := fun e => h e.symm
      simp only [names] at ih
      by_cases m : name ∈ rest.map (·.1)
      · simp [put, h, names, ih, m]
      · simp [put, h, h', names, ih, m]

theorem overlay_append (base patch more : Entries α) :
    overlay base (patch ++ more) = overlay (overlay base patch) more :=
  List.foldl_append

/-- New names go to the end, in the order in which they first come. -/
theorem names_overlay (base patch : Entries α) :
    names (overlay base patch)
      = names base ++ ((names patch).filter fun name => decide (name ∉ names base)).eraseDups := by
  induction patch generalizing base with
  | nil => simp [overlay, names]
  | cons entry rest ih =>
    have step : overlay base (entry :: rest) = overlay (put base entry.1 entry.2) rest := rfl
    have cons : names (entry :: rest) = entry.1 :: names rest := rfl
    rw [step, ih, names_put, cons]
    by_cases m : entry.1 ∈ names base
    · simp [m]
    · simp only [m, if_false, List.append_assoc, List.filter_cons, decide_not, decide_false,
        Bool.not_false, if_true, List.eraseDups_cons, List.filter_filter, List.singleton_append,
        List.mem_append, List.mem_singleton, not_or, Bool.decide_and]
      congr 4
      funext name
      rw [Bool.and_comm]
      rfl

/-- A new name goes to the end. -/
theorem put_of_not_mem {entries : Entries α} {name : String} (h : name ∉ names entries) (a : α) :
    put entries name a = entries ++ [(name, a)] := by
  induction entries with
  | nil => rfl
  | cons entry rest ih =>
    obtain ⟨hne, hrest⟩ := not_or.1 (mt List.mem_cons.2 h)
    rw [put, if_neg (Ne.symm hne), ih hrest, List.cons_append]

/-- So entries under new names go there one after the other. -/
theorem overlay_eq_append {base patch : Entries α} (h : (names (base ++ patch)).Nodup) :
    overlay base patch = base ++ patch := by
  induction patch generalizing base with
  | nil => exact (List.append_nil base).symm
  | cons entry rest ih =>
    have step : overlay base (entry :: rest) = overlay (put base entry.1 entry.2) rest := rfl
    have new : entry.1 ∉ names base := by
      rw [names, List.map_append, List.nodup_append] at h
      exact fun hmem => h.2.2 _ hmem _ List.mem_cons_self rfl
    rw [List.append_cons] at h
    rw [step, put_of_not_mem new, ih h, ← List.append_cons]

/-- Entries under distinct names stay as they are. -/
theorem ofList_eq_self {entries : Entries α} (h : (names entries).Nodup) :
    ofList entries = entries :=
  overlay_eq_append h

/-- Every name has the place where it first came. -/
theorem names_ofList (pairs : List (String × α)) :
    names (ofList pairs) = (pairs.map (·.1)).eraseDups := by
  have all : (names pairs).filter (fun name => decide (name ∉ names ([] : Entries α)))
      = names pairs := List.filter_eq_self.2 (by simp [names])
  rw [ofList, names_overlay, all]
  rfl

/-- Every name has the value that came last. -/
theorem lookup_ofList (pairs : List (String × α)) (name : String) :
    (ofList pairs).lookup name = pairs.reverse.lookup name := by
  rw [ofList, lookup_overlay]
  cases pairs.reverse.lookup name <;> rfl

/-! ## What is done to every value -/

/-- The entries with a function applied to every value. -/
def mapValues {β : Type u} (f : α → β) (entries : Entries α) : Entries β :=
  entries.map fun entry => (entry.1, f entry.2)

theorem mapValues_put {β : Type u} (f : α → β) (entries : Entries α) (name : String) (a : α) :
    mapValues f (put entries name a) = put (mapValues f entries) name (f a) := by
  induction entries with
  | nil => rfl
  | cons entry rest ih =>
    by_cases h : entry.1 = name
    · simp [mapValues, put, h]
    · simpa [mapValues, put, h] using ih

theorem mapValues_overlay {β : Type u} (f : α → β) (base patch : Entries α) :
    mapValues f (overlay base patch) = overlay (mapValues f base) (mapValues f patch) := by
  induction patch generalizing base with
  | nil => rfl
  | cons entry rest ih =>
    have step : overlay base (entry :: rest) = overlay (put base entry.1 entry.2) rest := rfl
    rw [step, ih, mapValues_put]
    rfl

end Entries

end FormAutomation
