import FormAutomation.Graph.Basic
import Mathlib.Data.List.Chain

/-!
# Ways around a graph

An edge joins two ids when nodes have both of them; an edge that dangles joins
nothing.  A *circuit* is a way along such edges that comes back to where it
started, a *cycle* one that comes by no id twice.  Two ids are in the same
component when each can be reached from the other.

All ids of a circuit are in one component, and each of them leads back to
itself; so a graph is acyclic, that is, no id leads back to itself, only if it
has no circuits.
-/

namespace FormAutomation.Graph

open Relation

/-- An edge leads from the first id to the second, and nodes have both. -/
def Joined (graph : Graph) (a b : String) : Prop :=
  a ∈ graph.ids ∧ b ∈ graph.ids ∧ ∃ edge ∈ graph.edges, edge.source = a ∧ edge.target = b

/-- Each of two ids can be reached from the other. -/
def SameComponent (graph : Graph) (a b : String) : Prop :=
  ReflTransGen graph.Joined a b ∧ ReflTransGen graph.Joined b a

/-- No way leads from an id back to it. -/
def IsAcyclic (graph : Graph) : Prop :=
  ∀ id, ¬ TransGen graph.Joined id id

/-- The ids on a way that leads back to its start. -/
structure IsCircuit (graph : Graph) (ids : List String) : Prop where
  /-- there is a start -/
  ne_nil : ids ≠ []
  /-- each id is joined to the next -/
  joined : ids.IsChain graph.Joined
  /-- the last one is joined to the first -/
  closed : ∀ first ∈ ids.head?, ∀ last ∈ ids.getLast?, graph.Joined last first

/-- A circuit that comes by no id twice. -/
structure IsCycle (graph : Graph) (ids : List String) : Prop extends IsCircuit graph ids where
  /-- no id stands twice -/
  nodup : ids.Nodup

variable {graph : Graph} {a b c : String} {ids : List String}

/-! ## Joined ids -/

theorem mem_successors_iff_joined (h : a ∈ graph.ids) :
    b ∈ graph.successors a ↔ graph.Joined a b := by
  rw [mem_successors]
  exact ⟨fun hb => ⟨h, hb⟩, fun hb => hb.2⟩

/-- Only ids of the graph lead back to themselves. -/
theorem mem_ids_of_transGen (h : TransGen graph.Joined a b) : a ∈ graph.ids := by
  obtain ⟨c, hc, -⟩ := TransGen.head'_iff.1 h
  exact hc.1

/-! ## Components -/

theorem SameComponent.trans (h : graph.SameComponent a b) (h' : graph.SameComponent b c) :
    graph.SameComponent a c :=
  ⟨h.1.trans h'.1, h'.2.trans h.2⟩

/-- The next id on a way back belongs to the same component, and leads back to
itself as well. -/
theorem exists_joined_of_transGen (h : TransGen graph.Joined a a) :
    ∃ b, graph.Joined a b ∧ graph.SameComponent a b ∧ TransGen graph.Joined b b := by
  obtain ⟨b, hab, hba⟩ := TransGen.head'_iff.1 h
  refine ⟨b, hab, ⟨.single hab, hba⟩, ?_⟩
  exact TransGen.tail'_iff.2 ⟨a, hba, hab⟩

/-! ## Circuits -/

namespace IsCircuit

/-- On a circuit the last id leads to every other one. -/
theorem last_leads (h : graph.IsCircuit ids) {last : String} (hl : last ∈ ids.getLast?)
    (ha : a ∈ ids) : TransGen graph.Joined last a := by
  refine h.joined.induction (TransGen graph.Joined last ·) ids ?_ ?_ a ha
  · intro x y hxy hx
    exact hx.tail hxy
  · intro hne
    exact .single (h.closed _ (List.head_mem_head? hne) _ hl)

/-- On a circuit every id leads to the last one. -/
theorem leads_last (h : graph.IsCircuit ids) {last : String} (hl : last ∈ ids.getLast?)
    (ha : a ∈ ids) : ReflTransGen graph.Joined a last := by
  refine h.joined.backwards_induction (ReflTransGen graph.Joined · last) ids ?_ ?_ a ha
  · intro x y hxy hy
    exact hy.head hxy
  · intro hne
    rw [List.getLast?_eq_getLast_of_ne_nil hne, Option.mem_some_iff] at hl
    rw [hl]

/-- A circuit has a last id. -/
theorem exists_last (h : graph.IsCircuit ids) : ∃ last, last ∈ ids.getLast? :=
  ⟨_, List.getLast_mem_getLast? h.ne_nil⟩

/-- Every id of a circuit leads to every one, itself not left out. -/
theorem leads (h : graph.IsCircuit ids) (ha : a ∈ ids) (hb : b ∈ ids) :
    TransGen graph.Joined a b := by
  obtain ⟨last, hl⟩ := h.exists_last
  exact TransGen.trans_right (h.leads_last hl ha) (h.last_leads hl hb)

/-- The ids of a circuit are in one component. -/
theorem sameComponent (h : graph.IsCircuit ids) (ha : a ∈ ids) (hb : b ∈ ids) :
    graph.SameComponent a b :=
  ⟨(h.leads ha hb).to_reflTransGen, (h.leads hb ha).to_reflTransGen⟩

end IsCircuit

/-- An acyclic graph has no circuits. -/
theorem IsAcyclic.not_isCircuit (h : graph.IsAcyclic) : ¬ graph.IsCircuit ids := by
  intro hc
  obtain ⟨last, hl⟩ := hc.exists_last
  have hm : last ∈ ids := List.mem_of_mem_getLast? hl
  exact h last (hc.leads hm hm)

/-- A way in an acyclic graph comes by no id twice. -/
theorem IsAcyclic.nodup (h : graph.IsAcyclic) (hc : ids.IsChain graph.Joined) : ids.Nodup := by
  have hp : ids.Pairwise (TransGen graph.Joined) :=
    (hc.imp fun _ _ => TransGen.single).pairwise
  refine hp.imp ?_
  rintro x y hxy rfl
  exact h x hxy

end FormAutomation.Graph
