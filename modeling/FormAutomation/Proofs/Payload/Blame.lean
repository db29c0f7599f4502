import FormAutomation.Payload.Schema
import Mathlib.Tactic.SplitIfs

/-!
# Complaints name places

Whatever stands in a payload, the schema reads it or complains of it.  A reader complains
of the place that it was given or of one inside it, and where it fails there is at least
one complaint; so the complaints about a whole payload lead to its fields, but for the one
about ids that are not distinct, which is about all nodes together.

This is shown of each way in which readers are put together, and from there of every
reader of the schema.
-/

namespace FormAutomation.Payload

/-- The complaint is about a field of these names or something inside it, or about the ids
of all nodes. -/
def Complaint.IsAbout (names : List String) (complaint : Complaint) : Prop :=
  (∃ name ∈ names, [name] <+: complaint.location)
    ∨ ∃ id, complaint = ⟨[], .duplicate id⟩

/-! ## Results that complain -/

namespace Checked

universe u

variable {α β γ : Type u} {P Q : Complaint → Prop} {location : List String}

/-- The complaints, if there are any, are of a sort, and there is one at least. -/
def Blames (P : Complaint → Prop) (x : Checked α) : Prop :=
  ∀ complaints, x = .error complaints → complaints ≠ [] ∧ ∀ complaint ∈ complaints, P complaint

/-- The complaint is about a location or something inside it. -/
def Inside (location : List String) (complaint : Complaint) : Prop :=
  location <+: complaint.location

theorem blames_ok (a : α) : Blames P (.ok a : Checked α) := by
  intro complaints h
  cases h

theorem blames_refuse (problem : Problem) (h : P ⟨location, problem⟩) :
    Blames P (refuse location problem : Checked α) := by
  intro complaints he
  obtain rfl := Except.error.inj he
  exact ⟨List.cons_ne_nil _ _, by simpa using h⟩

theorem Blames.mono {x : Checked α} (h : Blames P x) (hpq : ∀ complaint, P complaint → Q complaint) :
    Blames Q x := by
  intro complaints he
  obtain ⟨hne, hall⟩ := h complaints he
  exact ⟨hne, fun complaint hc => hpq _ (hall complaint hc)⟩

theorem Blames.map {x : Checked α} (h : Blames P x) (f : α → β) : Blames P (x.map f) := by
  cases x with
  | ok a => exact blames_ok _
  | error e =>
    intro complaints he
    obtain rfl := Except.error.inj he
    exact h _ rfl

theorem Blames.bind {x : Checked α} {f : α → Checked β} (hx : Blames P x)
    (hf : ∀ a, Blames P (f a)) : Blames P (x >>= f) := by
  cases x with
  | ok a => exact hf a
  | error e =>
    intro complaints he
    obtain rfl := Except.error.inj he
    exact hx _ rfl

/-- The complaints of two results are those of the one and those of the other. -/
theorem Blames.append {e e' : List Complaint} (h : Blames P (.error e : Checked α))
    (h' : Blames P (.error e' : Checked β)) : Blames P (.error (e ++ e') : Checked γ) := by
  obtain ⟨hne, hall⟩ := h e rfl
  obtain ⟨-, hall'⟩ := h' e' rfl
  intro complaints he
  obtain rfl := Except.error.inj he
  refine ⟨by simp [hne], fun complaint hc => ?_⟩
  rcases List.mem_append.1 hc with hc | hc
  · exact hall complaint hc
  · exact hall' complaint hc

theorem Blames.both {x : Checked α} {y : Checked β} (hx : Blames P x) (hy : Blames P y) :
    Blames P (both x y) := by
  cases x with
  | ok a =>
    cases y with
    | ok b => exact blames_ok _
    | error e => exact fun _ he => hy _ (by cases he; rfl)
  | error e =>
    cases y with
    | ok b => exact fun _ he => hx _ (by cases he; rfl)
    | error e' => exact hx.append hy

/-- The items are read like both of two, the first one and the others. -/
theorem all_cons (read : Nat → γ → Checked α) (index : Nat) (item : γ) (rest : List γ) :
    all read index (item :: rest)
      = (both (read index item) (all read (index + 1) rest)).map fun p => p.1 :: p.2 := by
  rw [all]
  cases read index item <;> cases all read (index + 1) rest <;> rfl

theorem blames_all {read : Nat → γ → Checked α} (h : ∀ index item, Blames P (read index item))
    (index : Nat) (items : List γ) : Blames P (all read index items) := by
  induction items generalizing index with
  | nil => exact blames_ok _
  | cons item rest ih =>
    rw [all_cons]
    exact ((h index item).both (ih (index + 1))).map _

end Checked

namespace Schema

open Checked

variable {α : Type} {location : List String} {fields : Entries Value}

/-- The reader complains of the location that it reads and of what is inside. -/
def Stays (read : Reader α) : Prop :=
  ∀ location v, Blames (Inside location) (read location v)

/-! ## Fields -/

/-- What is inside a field is inside the object. -/
theorem inside_field {name : String} {complaint : Complaint}
    (h : Inside (location ++ [name]) complaint) : Inside location complaint :=
  (List.prefix_append _ _).trans h

theorem blames_required {read : Reader α} (h : Stays read) (key : Key) :
    Blames (Inside location) (required fields location key read) := by
  unfold required
  split
  · exact (h _ _).mono fun _ => inside_field
  · exact blames_refuse _ (List.prefix_append _ _)

theorem blames_optional {read : Reader α} (h : Stays read) (key : Key) (default : α) :
    Blames (Inside location) (optional fields location key default read) := by
  unfold optional
  split
  · exact (h _ _).mono fun _ => inside_field
  · exact blames_ok _

/-- A field at the top that has one name only is complained of under this name. -/
theorem blames_top {read : Reader α} (h : Stays read) (name : String) (default : α) :
    Blames (Inside [name]) (optional fields [] (.single name) default read) := by
  have hname : (find fields (.single name)).1 = name := by
    unfold find Key.single
    cases fields.lookup name <;> rfl
  unfold optional
  split
  · next found v hfind =>
    rw [hfind] at hname
    subst hname
    exact h _ _
  · exact blames_ok _

/-! ## Values -/

theorem stays_text : Stays text := by
  intro location v
  cases v with
  | text s => exact blames_ok _
  | _ => exact blames_refuse _ List.prefix_rfl

theorem stays_identifier : Stays identifier := by
  intro location v
  cases v with
  | text s =>
    dsimp only [identifier]
    split
    · exact blames_ok _
    · exact blames_refuse _ List.prefix_rfl
  | _ => exact blames_refuse _ List.prefix_rfl

theorem stays_choice (name : α → String) (options : List α) : Stays (choice name options) := by
  intro location v
  cases v with
  | text s =>
    dsimp only [choice]
    split
    · exact blames_ok _
    · exact blames_refuse _ List.prefix_rfl
  | _ => exact blames_refuse _ List.prefix_rfl

theorem Stays.nullable {read : Reader α} (h : Stays read) : Stays (nullable read) := by
  intro location v
  cases v with
  | null => exact blames_ok _
  | _ => exact (h _ _).map some

theorem blames_wholeTruth (location : List String) (n : Int) (fits : Bool) :
    Blames (Inside location) (wholeTruth location n fits) := by
  unfold wholeTruth
  split_ifs
  · exact blames_ok _
  · exact blames_ok _
  · exact blames_refuse _ List.prefix_rfl
  · exact blames_refuse _ List.prefix_rfl

theorem stays_truth : Stays truth := by
  intro location v
  have hrefuse (problem : Problem) :
      Blames (Inside location) (refuse location problem : Checked Bool) :=
    blames_refuse problem List.prefix_rfl
  cases v with
  | bool b => exact blames_ok _
  | int n => exact blames_wholeTruth location n _
  | float x =>
    dsimp only [truth]
    split
    · exact blames_wholeTruth location _ _
    · exact hrefuse _
  | text s =>
    dsimp only [truth]
    split_ifs
    · exact blames_ok _
    · exact blames_ok _
    · exact hrefuse _
  | _ => exact hrefuse _

/-- What is no scalar is complained of as each of the four things that it could have been. -/
theorem stays_scalar : Stays scalar := by
  intro location v
  have hnone : Blames (Inside location) (.error [⟨location ++ ["str"], .textExpected⟩,
      ⟨location ++ ["int"], .wholeExpected⟩, ⟨location ++ ["float"], .numberExpected⟩,
      ⟨location ++ ["bool"], .truthExpected⟩] : Checked (Option Scalar)) := by
    intro complaints he
    obtain rfl := Except.error.inj he
    exact ⟨List.cons_ne_nil _ _, by simp [Inside]⟩
  cases v with
  | list items => exact hnone
  | object fields => exact hnone
  | _ => exact blames_ok _

theorem Stays.listOf {read : Reader α} (h : Stays read) : Stays (listOf read) := by
  intro location v
  cases v with
  | list items => exact blames_all (fun _ _ => (h _ _).mono fun _ => inside_field) 0 items
  | _ => exact blames_refuse _ List.prefix_rfl

theorem stays_texts : Stays texts := by
  intro location v
  cases v with
  | object fields =>
    refine blames_all (fun _ entry => ?_) 0 fields
    exact ((stays_text _ _).map _).mono fun _ => inside_field
  | _ => exact blames_refuse _ List.prefix_rfl

theorem stays_record {sort : String} {read : List String → Entries Value → Checked α}
    (h : ∀ location fields, Blames (Inside location) (read location fields)) :
    Stays (record sort read) := by
  intro location v
  cases v with
  | object fields => exact h _ _
  | _ => exact blames_refuse _ List.prefix_rfl

/-! ## Nodes and edges -/

theorem blames_endpoint : Blames (Inside location) (endpoint location fields) :=
  (((blames_optional stays_text.nullable _ _).both
    ((blames_optional (stays_choice _ _) _ _).both
      ((blames_optional stays_texts _ _).both
        (blames_optional stays_text.nullable _ _))))).map _

theorem blames_optionSource : Blames (Inside location) (optionSource location fields) :=
  (((blames_optional stays_text.nullable _ _).both
    ((blames_optional stays_text _ _).both
      ((blames_optional stays_text _ _).both
        (blames_optional stays_text.nullable _ _))))).map _

theorem blames_assignment : Blames (Inside location) (assignment location fields) :=
  ((blames_optional stays_text _ _).both (blames_optional stays_text _ _)).map _

theorem blames_action (kind : NodeKind) : Blames (Inside location) (action kind location fields) := by
  cases kind with
  | trigger =>
    exact ((blames_optional (stays_choice _ _).nullable _ _).both
      (blames_optional stays_text.nullable _ _)).map _
  | page => exact (blames_optional stays_text.nullable _ _).map _
  | callApi => exact blames_endpoint.map _
  | fetchOptions => exact (blames_endpoint.both blames_optionSource).map _
  | setData =>
    exact (blames_optional (stays_record fun _ _ => blames_assignment).listOf _ _).map _
  | showDialog =>
    exact ((blames_optional stays_text.nullable _ _).both
      (blames_optional stays_text.nullable _ _)).map _
  | redirect =>
    exact ((blames_optional stays_text.nullable _ _).both
      (blames_optional stays_truth _ _)).map _
  | condition =>
    exact ((blames_optional stays_text.nullable _ _).both
      ((blames_optional (stays_choice _ _).nullable _ _).both
        (blames_optional stays_scalar _ _))).map _

theorem stays_configuration (kind : NodeKind) : Stays (configuration kind) := by
  intro location v
  cases v with
  | object config => exact blames_action kind
  | _ => exact blames_refuse _ List.prefix_rfl

theorem blames_nodeOfKind (kind : NodeKind) :
    Blames (Inside location) (nodeOfKind kind location fields) :=
  ((blames_required stays_identifier _).both
    ((blames_optional stays_text _ _).both
      (blames_required (stays_configuration kind) _))).map _

theorem stays_node : Stays node := by
  intro location v
  cases v with
  | object fields =>
    unfold node
    dsimp only
    split
    · exact blames_refuse _ List.prefix_rfl
    · split
      · exact (blames_nodeOfKind _).mono fun _ => inside_field
      · exact blames_refuse _ List.prefix_rfl
    · exact blames_refuse _ List.prefix_rfl
  | _ => exact blames_refuse _ List.prefix_rfl

theorem blames_edge : Blames (Inside location) (edge location fields) :=
  ((blames_required stays_identifier _).both
    ((blames_required stays_text _).both
      ((blames_optional (stays_choice _ _) _ _).both
        (blames_required stays_text _)))).map _

/-! ## Graphs and workflows -/

/-- The names of a graph's fields. -/
def graphNames : List String := ["id", "nodes", "edges"]

/-- The names of a workflow's fields. -/
def workflowNames : List String := graphNames ++ ["name", "enabled"]

/-- A field of these names is complained of as such. -/
theorem isAbout_of_inside {names : List String} {name : String} (h : name ∈ names)
    {complaint : Complaint} (hc : Inside [name] complaint) : complaint.IsAbout names :=
  .inl ⟨name, h, hc⟩

theorem blames_parts {names : List String} (h : graphNames ⊆ names) :
    Blames (Complaint.IsAbout names) (parts fields) := by
  have hid : "id" ∈ names := h (by decide)
  have hnodes : "nodes" ∈ names := h (by decide)
  have hedges : "edges" ∈ names := h (by decide)
  refine (Blames.both ?_ (.both ?_ ?_)).map _
  · exact (blames_top stays_text _ _).mono fun _ => isAbout_of_inside hid
  · exact (blames_top stays_node.listOf _ _).mono fun _ => isAbout_of_inside hnodes
  · exact (blames_top (stays_record fun _ _ => blames_edge).listOf _ _).mono
      fun _ => isAbout_of_inside hedges

theorem blames_assemble {names : List String} (parts : Parts) :
    Blames (Complaint.IsAbout names) (assemble parts) := by
  unfold assemble
  split
  · exact blames_ok _
  · exact blames_refuse _ (.inr ⟨_, rfl⟩)

theorem blames_graph : Blames (Complaint.IsAbout graphNames) (graph fields) :=
  Blames.bind (blames_parts (List.Subset.refl _)) blames_assemble

theorem blames_workflow : Blames (Complaint.IsAbout workflowNames) (workflow fields) := by
  have hname : "name" ∈ workflowNames := by decide
  have henabled : "enabled" ∈ workflowNames := by decide
  refine Blames.bind (.both (blames_parts (List.subset_append_left _ _)) (.both ?_ ?_))
    fun _ => Blames.bind (blames_assemble _) fun _ => blames_ok _
  · exact (blames_top stays_text _ _).mono fun _ => isAbout_of_inside hname
  · exact (blames_top stays_truth _ _).mono fun _ => isAbout_of_inside henabled

end Schema

end FormAutomation.Payload
