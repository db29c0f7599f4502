import FormAutomation.Proofs.Check.Code
import FormAutomation.Proofs.Graph.Circuit

/-!
# Which nodes are reported as not reachable

A node can be reached when a way along edges with existing ends leads to it from a node at
which a run may start.  The search takes up one id after another.  It is exact because the
ids that it has reached never lead anywhere but to ids that it has reached or has still to
look at, and because it takes up none but starts and what ids that it has reached lead to;
so in the end the nodes that are reported are the ones to which there is no way.
-/

namespace FormAutomation.Graph

open Relation

/-- A way leads to the id from a node at which a run may start. -/
def IsReached (graph : Graph) (id : String) : Prop :=
  ∃ start ∈ graph.starts, ReflTransGen graph.Joined start.id id

variable {graph : Graph} {reached pending starts : List String} {id target : String}

/-! ## Ways -/

theorem Reachable.mem_ids (h : graph.Reachable starts id) : id ∈ graph.ids := by
  cases h with
  | start hs hid => exact hid
  | next h ht => exact (mem_successors.1 ht).1

/-- What can be reached is what a way leads to. -/
theorem reachable_iff :
    graph.Reachable starts id
      ↔ ∃ start ∈ starts, start ∈ graph.ids ∧ ReflTransGen graph.Joined start id := by
  constructor
  · intro h
    induction h with
    | start hs hid => exact ⟨_, hs, hid, .refl⟩
    | next h ht ih =>
      obtain ⟨start, hs, hid, hway⟩ := ih
      exact ⟨start, hs, hid, hway.tail ((mem_successors_iff_joined h.mem_ids).1 ht)⟩
  · rintro ⟨start, hs, hid, hway⟩
    induction hway with
    | refl => exact .start hs hid
    | tail hway hjoined ih => exact ih.next ((mem_successors_iff_joined hjoined.1).2 hjoined)

/-- Ways from what an id leads to are ways from the id. -/
theorem Reachable.of_successors (hid : id ∈ graph.ids)
    (h : graph.Reachable (graph.successors id ++ pending) target) :
    graph.Reachable (id :: pending) target := by
  induction h with
  | start hs hmem =>
    rcases List.mem_append.1 hs with hs | hs
    · exact .next (.start List.mem_cons_self hid) hs
    · exact .start (List.mem_cons_of_mem _ hs) hmem
  | next h ht ih => exact ih.next ht

theorem Reachable.cons (h : graph.Reachable pending target) :
    graph.Reachable (id :: pending) target := by
  induction h with
  | start hs hmem => exact .start (List.mem_cons_of_mem _ hs) hmem
  | next h ht ih => exact ih.next ht

/-! ## The search -/

/-- The search takes up nothing but what can be reached. -/
theorem reachable_of_mem_explore (h : target ∈ graph.explore reached pending) :
    target ∈ reached ∨ graph.Reachable pending target := by
  induction reached, pending using explore.induct graph with
  | case1 reached => exact .inl (by simpa [explore] using h)
  | case2 reached id pending hid _ ih =>
    rw [explore, dif_pos hid] at h
    rcases ih h with hmem | hreach
    · rcases List.mem_cons.1 hmem with rfl | hmem
      · exact .inr (.start List.mem_cons_self hid.1)
      · exact .inl hmem
    · exact .inr (hreach.of_successors hid.1)
  | case3 reached id pending hid ih =>
    rw [explore, dif_neg hid] at h
    rcases ih h with hmem | hreach
    · exact .inl hmem
    · exact .inr hreach.cons

/-- The search keeps what it has reached, and takes up what it has to look at. -/
theorem mem_explore (h : id ∈ reached ∨ id ∈ pending ∧ id ∈ graph.ids) :
    id ∈ graph.explore reached pending := by
  induction reached, pending using explore.induct graph with
  | case1 reached =>
    rw [explore]
    exact h.resolve_right fun h => List.not_mem_nil h.1
  | case2 reached first pending hid _ ih =>
    rw [explore, dif_pos hid]
    refine ih ?_
    rcases h with h | ⟨h, hmem⟩
    · exact .inl (List.mem_cons_of_mem _ h)
    · rcases List.mem_cons.1 h with rfl | h
      · exact .inl List.mem_cons_self
      · exact .inr ⟨List.mem_append_right _ h, hmem⟩
  | case3 reached first pending hid ih =>
    rw [explore, dif_neg hid]
    refine ih ?_
    rcases h with h | ⟨h, hmem⟩
    · exact .inl h
    · rcases List.mem_cons.1 h with rfl | h
      · -- the id is passed over because it was reached already
        exact .inl (by_contra fun hnot => hid ⟨hmem, hnot⟩)
      · exact .inr ⟨h, hmem⟩

/-- If what was reached leads nowhere but to what was reached and to what is still to be
looked at, then in the end nothing is left to be reached. -/
theorem successors_mem_explore
    (h : ∀ id ∈ reached, ∀ target ∈ graph.successors id, target ∈ reached ∨ target ∈ pending) :
    ∀ id ∈ graph.explore reached pending, ∀ target ∈ graph.successors id,
      target ∈ graph.explore reached pending := by
  induction reached, pending using explore.induct graph with
  | case1 reached =>
    intro id hid target ht
    rw [explore] at hid ⊢
    exact (h id hid target ht).resolve_right List.not_mem_nil
  | case2 reached first pending hfirst _ ih =>
    rw [explore, dif_pos hfirst]
    refine ih fun id hid target ht => ?_
    rcases List.mem_cons.1 hid with rfl | hid
    · exact .inr (List.mem_append_left _ ht)
    · rcases h id hid target ht with hmem | hmem
      · exact .inl (List.mem_cons_of_mem _ hmem)
      · rcases List.mem_cons.1 hmem with rfl | hmem
        · exact .inl List.mem_cons_self
        · exact .inr (List.mem_append_right _ hmem)
  | case3 reached first pending hfirst ih =>
    rw [explore, dif_neg hfirst]
    refine ih fun id hid target ht => ?_
    rcases h id hid target ht with hmem | hmem
    · exact .inl hmem
    · rcases List.mem_cons.1 hmem with rfl | hmem
      · have hids : target ∈ graph.ids := (mem_successors.1 ht).1
        exact .inl (by_contra fun hnot => hfirst ⟨hids, hnot⟩)
      · exact .inr hmem

/-- The search from start ids reaches exactly what can be reached from them. -/
theorem mem_explore_nil_iff : id ∈ graph.explore [] starts ↔ graph.Reachable starts id := by
  constructor
  · intro h
    exact (reachable_of_mem_explore h).resolve_left List.not_mem_nil
  · intro h
    induction h with
    | start hs hid => exact mem_explore (.inr ⟨hs, hid⟩)
    | next h ht ih =>
      exact successors_mem_explore (fun _ hmem => absurd hmem List.not_mem_nil) _ ih _ ht

/-! ## What is reported -/

/-- The ids that are reached are those to which a way leads. -/
theorem mem_reached_iff : id ∈ graph.reached ↔ graph.IsReached id := by
  rw [reached, mem_explore_nil_iff, reachable_iff]
  constructor
  · rintro ⟨_, hs, -, hway⟩
    obtain ⟨start, hstart, rfl⟩ := List.mem_map.1 hs
    exact ⟨start, hstart, hway⟩
  · rintro ⟨start, hstart, hway⟩
    exact ⟨start.id, List.mem_map_of_mem hstart,
      List.mem_map_of_mem (mem_nodes_of_mem_starts hstart), hway⟩

instance (id : String) : Decidable (graph.IsReached id) :=
  decidable_of_iff (id ∈ graph.reached) mem_reached_iff

/-- The nodes that are reported as not reachable are those to which no way leads, each once
and in the author's order. -/
theorem issuesOf_unreachable_eq (graph : Graph) :
    graph.issuesOf ["NODE_UNREACHABLE"]
      = (graph.nodes.filter fun node => ¬ graph.IsReached node.id).map
        fun node => (Finding.unreachable node).issue := by
  rw [issuesOf_unreachable]
  congr 1
  refine List.filter_congr fun node _ => ?_
  rw [decide_eq_decide, mem_reached_iff]

end FormAutomation.Graph
