import FormAutomation.Check.Cycle
import FormAutomation.Proofs.Graph.Circuit
import Mathlib.Data.List.Nodup

/-!
# The cycles that are found are those that are there

What a walk finds are cycles, no two of them with the same members.  It does not
find every cycle, but one in every component that has any.

The reason is what holds when the walk leaves an id for good.  If the id leads
back to itself, one of its successors is in its component.  That successor was
visited by then: either it is still on the way, and then the edge to it closed a
cycle, or the walk has left it before, and then it found a cycle of that very
component.  So no order in which the ids are visited matters, and neither does
from which root they are.
-/

namespace FormAutomation.Graph

open Relation

variable {graph : Graph} {visited : List String} {cycles : List (List String)}
  {way : List Frame} {id target : String} {pending : List String}

/-! ## Collecting cycles -/

theorem sameMembers_iff {a b : List String} : sameMembers a b = true ↔ ∀ id, id ∈ a ↔ id ∈ b := by
  simp only [sameMembers, Bool.and_eq_true, List.all_eq_true, List.contains_iff_mem]
  constructor
  · rintro ⟨hab, hba⟩ id
    exact ⟨hab id, hba id⟩
  · intro h
    exact ⟨fun id => (h id).1, fun id => (h id).2⟩

/-- What was collected stays. -/
theorem mem_addCycle_of_mem {cycle other : List String} (h : other ∈ cycles) :
    other ∈ addCycle cycles cycle := by
  unfold addCycle
  split
  · exact h
  · exact List.mem_append_left _ h

/-- Only the new cycle is added. -/
theorem mem_addCycle {cycle other : List String} (h : other ∈ addCycle cycles cycle) :
    other ∈ cycles ∨ other = cycle := by
  unfold addCycle at h
  split at h
  · exact Or.inl h
  · simpa using h

/-- A cycle with the members of the new one is there afterwards. -/
theorem exists_mem_addCycle (cycles : List (List String)) (cycle : List String) :
    ∃ other ∈ addCycle cycles cycle, ∀ id, id ∈ other ↔ id ∈ cycle := by
  by_cases h : cycles.any (sameMembers cycle)
  · obtain ⟨other, hmem, hsame⟩ := List.any_eq_true.1 h
    refine ⟨other, mem_addCycle_of_mem hmem, fun id => ?_⟩
    exact (sameMembers_iff.1 hsame id).symm
  · refine ⟨cycle, ?_, fun id => Iff.rfl⟩
    rw [addCycle, if_neg h]
    exact List.mem_append_right _ (List.mem_singleton_self cycle)

/-- Two cycles differ in their members. -/
def MembersDiffer (a b : List String) : Prop :=
  ¬ ∀ id, id ∈ a ↔ id ∈ b

theorem pairwise_addCycle (h : cycles.Pairwise MembersDiffer) (cycle : List String) :
    (addCycle cycles cycle).Pairwise MembersDiffer := by
  unfold addCycle
  split
  · exact h
  · next hnew =>
    rw [List.pairwise_append]
    refine ⟨h, List.pairwise_singleton _ _, ?_⟩
    rintro other hother new hmem hsame
    obtain rfl := List.mem_singleton.1 hmem
    refine hnew (List.any_eq_true.2 ⟨other, hother, ?_⟩)
    exact sameMembers_iff.2 fun id => (hsame id).symm

/-! ## The part of a way that closes a cycle -/

/-- The ids up to one of a way, that one included, are the beginning of the way. -/
theorem takeWhile_append_prefix {active : List String} (h : id ∈ active) :
    (active.takeWhile (· ≠ id) ++ [id]) <+: active := by
  induction active with
  | nil => exact absurd h List.not_mem_nil
  | cons first rest ih =>
    by_cases e : first = id
    · subst e
      simp
    · have hrest : id ∈ rest := by
        rcases List.mem_cons.1 h with rfl | hrest
        · exact absurd rfl e
        · exact hrest
      rw [List.takeWhile_cons_of_pos (by simpa using e), List.cons_append,
        List.cons_prefix_cons]
      exact ⟨rfl, ih hrest⟩

/-- An edge from the end of a way back to an id on it closes a cycle. -/
theorem isCycle_cycleFrom {active : List String} (hn : (id :: active).Nodup)
    (hj : (id :: active).IsChain fun child parent => graph.Joined parent child)
    (ht : target ∈ id :: active) (hback : graph.Joined id target) :
    graph.IsCycle (cycleFrom (id :: active) target) := by
  have hp := takeWhile_append_prefix ht
  refine ⟨⟨?_, ?_, ?_⟩, ?_⟩
  · simp [cycleFrom]
  · rw [cycleFrom, List.isChain_reverse]
    exact hj.prefix hp
  · intro first hfirst last hlast
    have e : target = first := by simpa [cycleFrom] using hfirst
    have e' : id = last := by
      rw [cycleFrom, List.getLast?_reverse] at hlast
      by_cases hid : id = target
      · simpa [hid] using hlast
      · simpa [hid] using hlast
    rw [← e, ← e']
    exact hback
  · rw [cycleFrom, List.nodup_reverse]
    exact hn.sublist hp.sublist

/-- The end of the way is on the cycle. -/
theorem mem_cycleFrom {active : List String} : id ∈ cycleFrom (id :: active) target := by
  by_cases h : id = target <;> simp [cycleFrom, h]

/-! ## What holds on the way -/

/-- A cycle of the component of an id was found. -/
def Covered (graph : Graph) (cycles : List (List String)) (id : String) : Prop :=
  ∃ cycle ∈ cycles, ∀ member ∈ cycle, graph.SameComponent id member

theorem Covered.addCycle (h : graph.Covered cycles id) (cycle : List String) :
    graph.Covered (addCycle cycles cycle) id := by
  obtain ⟨other, hother, hmem⟩ := h
  exact ⟨other, mem_addCycle_of_mem hother, hmem⟩

/-- A cycle through an id covers it. -/
theorem covered_addCycle {cycle : List String} (h : graph.IsCycle cycle) (hid : id ∈ cycle) :
    graph.Covered (Graph.addCycle cycles cycle) id := by
  obtain ⟨other, hother, hsame⟩ := exists_mem_addCycle cycles cycle
  refine ⟨other, hother, fun member hmember => ?_⟩
  exact h.toIsCircuit.sameComponent hid ((hsame member).1 hmember)

theorem Covered.of_sameComponent {other : String} (h : graph.Covered cycles other)
    (hs : graph.SameComponent id other) : graph.Covered cycles id := by
  obtain ⟨cycle, hcycle, hmem⟩ := h
  exact ⟨cycle, hcycle, fun member hmember => hs.trans (hmem member hmember)⟩

/-- What holds wherever a walk stands. -/
structure Walked (graph : Graph) (visited : List String) (cycles : List (List String))
    (way : List Frame) : Prop where
  /-- only ids of nodes are visited -/
  known : ∀ id ∈ visited, id ∈ graph.ids
  /-- the way comes by no id twice -/
  nodup : (way.map (·.id)).Nodup
  /-- it was walked -/
  onWay : ∀ id ∈ way.map (·.id), id ∈ visited
  /-- it follows edges -/
  joined : (way.map (·.id)).IsChain fun child parent => graph.Joined parent child
  /-- the successors that were looked at are visited, and if one was on the way
  then there is a cycle -/
  looked : ∀ frame below, frame :: below <:+ way →
    ∃ past, graph.successors frame.id = past ++ frame.pending ∧ ∀ target ∈ past,
      target ∈ visited
        ∧ (target ∈ frame.id :: below.map (·.id) → graph.Covered cycles frame.id)
  /-- an id that was left for good and leads back to itself has a cycle in its
  component -/
  left : ∀ id ∈ visited, id ∉ way.map (·.id) → TransGen graph.Joined id id →
    graph.Covered cycles id
  /-- only cycles were found -/
  found : ∀ cycle ∈ cycles, graph.IsCycle cycle
  /-- and none of them twice -/
  distinct : cycles.Pairwise MembersDiffer

namespace Walked

theorem id_mem (h : graph.Walked visited cycles (⟨id, pending⟩ :: way)) : id ∈ graph.ids :=
  h.known id (h.onWay id (by simp))

/-- The successor looked at next is one. -/
theorem joined_next (h : graph.Walked visited cycles (⟨id, target :: pending⟩ :: way)) :
    graph.Joined id target := by
  obtain ⟨past, hsucc, -⟩ := h.looked _ _ (List.suffix_refl _)
  rw [← mem_successors_iff_joined h.id_mem, hsucc]
  simp

/-- One more successor of the last id was looked at. -/
theorem looked_next (h : graph.Walked visited cycles (⟨id, target :: pending⟩ :: way))
    {visited' : List String} {cycles' : List (List String)}
    (hv : ∀ id ∈ visited, id ∈ visited')
    (hc : ∀ id, graph.Covered cycles id → graph.Covered cycles' id)
    (ht : target ∈ visited')
    (hback : target ∈ id :: way.map (·.id) → graph.Covered cycles' id) :
    ∀ frame below, frame :: below <:+ ⟨id, pending⟩ :: way →
      ∃ past, graph.successors frame.id = past ++ frame.pending ∧ ∀ target ∈ past,
        target ∈ visited'
          ∧ (target ∈ frame.id :: below.map (·.id) → graph.Covered cycles' frame.id) := by
  intro frame below hsuffix
  rcases List.suffix_cons_iff.1 hsuffix with e | hbelow
  · obtain ⟨rfl, rfl⟩ := List.cons.inj e
    obtain ⟨past, hsucc, hpast⟩ := h.looked _ _ (List.suffix_refl _)
    refine ⟨past ++ [target], by simpa using hsucc, fun next hnext => ?_⟩
    rcases List.mem_append.1 hnext with hnext | hnext
    · exact ⟨hv _ (hpast next hnext).1, fun hw => hc _ ((hpast next hnext).2 hw)⟩
    · obtain rfl := List.mem_singleton.1 hnext
      exact ⟨ht, hback⟩
  · obtain ⟨past, hsucc, hpast⟩ := h.looked frame below (hbelow.trans (List.suffix_cons _ _))
    refine ⟨past, hsucc, fun next hnext => ?_⟩
    exact ⟨hv _ (hpast next hnext).1, fun hw => hc _ ((hpast next hnext).2 hw)⟩

/-- Before the first walk. -/
theorem nil : graph.Walked [] [] [] where
  known := by simp
  nodup := by simp
  onWay := by simp
  joined := by simp
  looked := by simp
  left := by simp
  found := by simp
  distinct := by simp

/-- A walk starts at an id that was not visited. -/
theorem start (h : graph.Walked visited cycles []) (hid : id ∈ graph.ids) (hnew : id ∉ visited) :
    graph.Walked (id :: visited) cycles [⟨id, graph.successors id⟩] where
  known := by
    rintro other hother
    rcases List.mem_cons.1 hother with rfl | hother
    · exact hid
    · exact h.known other hother
  nodup := by simp
  onWay := by simp
  joined := by simp
  looked := by
    intro frame below hsuffix
    rcases List.suffix_cons_iff.1 hsuffix with e | hbelow
    · obtain ⟨rfl, rfl⟩ := List.cons.inj e
      exact ⟨[], rfl, by simp⟩
    · simp at hbelow
  left := by
    intro other hother haway hback
    rcases List.mem_cons.1 hother with rfl | hother
    · simp at haway
    · exact h.left other hother (by simp) hback
  found := h.found
  distinct := h.distinct

/-- The last id of the way is left: all of its successors were looked at. -/
theorem leave (h : graph.Walked visited cycles (⟨id, []⟩ :: way)) :
    graph.Walked visited cycles way where
  known := h.known
  nodup := (List.nodup_cons.1 h.nodup).2
  onWay := fun other hother => h.onWay other (List.mem_cons_of_mem _ hother)
  joined := h.joined.tail
  looked := fun frame below hsuffix => h.looked frame below (hsuffix.trans (List.suffix_cons _ _))
  left := by
    intro other hother haway hback
    by_cases e : other = id
    · subst e
      obtain ⟨next, hjoined, hsame, hnext⟩ := exists_joined_of_transGen hback
      obtain ⟨past, hsucc, hpast⟩ := h.looked _ _ (List.suffix_refl _)
      have hmem : next ∈ past := by
        have := (mem_successors_iff_joined h.id_mem).2 hjoined
        rwa [hsucc, List.append_nil] at this
      -- the next id is still on the way, or was left before
      by_cases hway : next ∈ other :: way.map (·.id)
      · exact (hpast next hmem).2 hway
      · exact (h.left next (hpast next hmem).1 hway hnext).of_sameComponent hsame
    · exact h.left other hother (by simpa [e] using haway) hback
  found := h.found
  distinct := h.distinct

/-- The next successor is on the way: the edge to it closes a cycle. -/
theorem close (h : graph.Walked visited cycles (⟨id, target :: pending⟩ :: way))
    (ht : target ∈ id :: way.map (·.id)) :
    graph.Walked visited
      (Graph.addCycle cycles (cycleFrom (id :: way.map (·.id)) target))
      (⟨id, pending⟩ :: way) := by
  have hcycle := isCycle_cycleFrom h.nodup h.joined ht h.joined_next
  exact
    { known := h.known
      nodup := h.nodup
      onWay := h.onWay
      joined := h.joined
      looked := h.looked_next (fun _ hv => hv) (fun _ hc => hc.addCycle _) (h.onWay target ht)
        fun _ => covered_addCycle hcycle mem_cycleFrom
      left := fun other hother haway hback => (h.left other hother haway hback).addCycle _
      found := by
        intro cycle hmem
        rcases mem_addCycle hmem with hmem | rfl
        · exact h.found cycle hmem
        · exact hcycle
      distinct := pairwise_addCycle h.distinct _ }

/-- The next successor was not visited: the way goes on to it. -/
theorem enter (h : graph.Walked visited cycles (⟨id, target :: pending⟩ :: way))
    (ht : target ∉ id :: way.map (·.id)) (hnew : target ∉ visited) :
    graph.Walked (target :: visited) cycles
      (⟨target, graph.successors target⟩ :: ⟨id, pending⟩ :: way) where
  known := by
    intro other hother
    rcases List.mem_cons.1 hother with rfl | hother
    · exact h.joined_next.2.1
    · exact h.known other hother
  nodup := List.nodup_cons.2 ⟨ht, h.nodup⟩
  onWay := by
    intro other hother
    rcases List.mem_cons.1 hother with rfl | hother
    · exact List.mem_cons_self
    · exact List.mem_cons_of_mem _ (h.onWay other hother)
  joined := List.isChain_cons_cons.2 ⟨h.joined_next, h.joined⟩
  looked := by
    intro frame below hsuffix
    rcases List.suffix_cons_iff.1 hsuffix with e | hbelow
    · obtain ⟨rfl, rfl⟩ := List.cons.inj e
      exact ⟨[], rfl, by simp⟩
    · exact h.looked_next (fun _ => List.mem_cons_of_mem _) (fun _ hc => hc)
        List.mem_cons_self (fun hway => absurd hway ht) frame below hbelow
  left := by
    intro other hother haway hback
    rw [List.map_cons, List.mem_cons, not_or] at haway
    rcases List.mem_cons.1 hother with e | hother
    · exact absurd e haway.1
    · exact h.left other hother haway.2 hback
  found := h.found
  distinct := h.distinct

/-- The next successor was left before: it is passed over. -/
theorem pass (h : graph.Walked visited cycles (⟨id, target :: pending⟩ :: way))
    (ht : target ∉ id :: way.map (·.id)) (hold : target ∈ visited) :
    graph.Walked visited cycles (⟨id, pending⟩ :: way) where
  known := h.known
  nodup := h.nodup
  onWay := h.onWay
  joined := h.joined
  looked := h.looked_next (fun _ hv => hv) (fun _ hc => hc) hold fun hway => absurd hway ht
  left := h.left
  found := h.found
  distinct := h.distinct

end Walked

/-! ## Whole walks

`walk` is defined by well-founded recursion, so it does not unfold by itself; these
are the equations that proofs work with. -/

theorem walk_leave : graph.walk visited cycles (⟨id, []⟩ :: way) = graph.walk visited cycles way := by
  rw [walk]

theorem walk_close (ht : target ∈ id :: way.map (·.id)) :
    graph.walk visited cycles (⟨id, target :: pending⟩ :: way)
      = graph.walk visited (addCycle cycles (cycleFrom (id :: way.map (·.id)) target))
          (⟨id, pending⟩ :: way) := by
  rw [walk, if_pos ht]

theorem walk_enter (ht : target ∉ id :: way.map (·.id)) (hk : target ∈ graph.ids)
    (hnew : target ∉ visited) :
    graph.walk visited cycles (⟨id, target :: pending⟩ :: way)
      = graph.walk (target :: visited) cycles
          (⟨target, graph.successors target⟩ :: ⟨id, pending⟩ :: way) := by
  rw [walk, if_neg ht, dif_pos ⟨hk, hnew⟩]

theorem walk_pass (ht : target ∉ id :: way.map (·.id)) (hold : target ∈ visited) :
    graph.walk visited cycles (⟨id, target :: pending⟩ :: way)
      = graph.walk visited cycles (⟨id, pending⟩ :: way) := by
  rw [walk, if_neg ht, dif_neg fun h => h.2 hold]

/-- What holds on the way holds when the walk is over. -/
theorem Walked.walk (h : graph.Walked visited cycles way) :
    graph.Walked (graph.walk visited cycles way).1 (graph.walk visited cycles way).2 []
      ∧ ∀ id ∈ visited, id ∈ (graph.walk visited cycles way).1 := by
  induction visited, cycles, way using walk.induct graph with
  | case1 visited cycles =>
    rw [Graph.walk]
    exact ⟨h, fun _ hv => hv⟩
  | case2 visited cycles id way ih =>
    rw [walk_leave]
    exact ih h.leave
  | case3 visited cycles id target pending way active ht ih =>
    have hactive : active = id :: way.map (·.id) := by simp [active]
    rw [hactive] at ht ih
    rw [walk_close ht]
    exact ih (h.close ht)
  | case4 visited cycles id target pending way active ht hnew _ ih =>
    have hactive : active = id :: way.map (·.id) := by simp [active]
    rw [hactive] at ht
    rw [walk_enter ht hnew.1 hnew.2]
    obtain ⟨hw, hmem⟩ := ih (h.enter ht hnew.2)
    exact ⟨hw, fun other hother => hmem other (List.mem_cons_of_mem _ hother)⟩
  | case5 visited cycles id target pending way active ht hold ih =>
    have hactive : active = id :: way.map (·.id) := by simp [active]
    rw [hactive] at ht
    -- successors are ids of the graph, so this one was visited
    have hknown : target ∈ graph.ids := h.joined_next.2.1
    have hold : target ∈ visited := by_contra fun hnew => hold ⟨hknown, hnew⟩
    rw [walk_pass ht hold]
    exact ih (h.pass ht hold)

/-- After walks from all roots, every root was visited. -/
theorem Walked.walkAll (roots : List String) (h : graph.Walked visited cycles [])
    (hr : ∀ root ∈ roots, root ∈ graph.ids) :
    ∃ visited', graph.Walked visited' (graph.walkAll visited cycles roots) []
      ∧ (∀ id ∈ visited, id ∈ visited') ∧ ∀ root ∈ roots, root ∈ visited' := by
  induction roots generalizing visited cycles with
  | nil => exact ⟨visited, h, fun _ hv => hv, by simp⟩
  | cons root rest ih =>
    have hrest : ∀ root ∈ rest, root ∈ graph.ids := fun r m => hr r (List.mem_cons_of_mem _ m)
    by_cases hroot : root ∈ visited
    · obtain ⟨visited', hw, hmem, hroots⟩ := ih h hrest
      refine ⟨visited', by rwa [Graph.walkAll, if_pos hroot], hmem, ?_⟩
      intro other hother
      rcases List.mem_cons.1 hother with rfl | hother
      · exact hmem other hroot
      · exact hroots other hother
    · obtain ⟨hw, hmem⟩ := (h.start (hr root List.mem_cons_self) hroot).walk
      obtain ⟨visited', hw', hmem', hroots⟩ := ih hw hrest
      refine ⟨visited', by rwa [Graph.walkAll, if_neg hroot], ?_, ?_⟩
      · exact fun other hother => hmem' other (hmem other (List.mem_cons_of_mem _ hother))
      · intro other hother
        rcases List.mem_cons.1 hother with rfl | hother
        · exact hmem' other (hmem other List.mem_cons_self)
        · exact hroots other hother

/-- When all walks are over, every id of the graph was visited and left. -/
theorem exists_walked (graph : Graph) :
    ∃ visited, graph.Walked visited graph.cycles [] ∧ ∀ id ∈ graph.ids, id ∈ visited := by
  obtain ⟨visited, hw, -, hroots⟩ := Walked.nil.walkAll graph.ids fun _ hr => hr
  exact ⟨visited, hw, hroots⟩

/-! ## What is found -/

theorem isCycle_of_mem_cycles {cycle : List String} (h : cycle ∈ graph.cycles) :
    graph.IsCycle cycle := by
  obtain ⟨_, hw, -⟩ := exists_walked graph
  exact hw.found cycle h

theorem pairwise_cycles (graph : Graph) : graph.cycles.Pairwise MembersDiffer := by
  obtain ⟨_, hw, -⟩ := exists_walked graph
  exact hw.distinct

/-- In the component of an id that leads back to itself, a cycle is found. -/
theorem covered_of_transGen (h : TransGen graph.Joined id id) : graph.Covered graph.cycles id := by
  obtain ⟨visited, hw, hall⟩ := exists_walked graph
  exact hw.left id (hall id (mem_ids_of_transGen h)) (by simp) h

/-- No cycle is found exactly in acyclic graphs. -/
theorem cycles_eq_nil_iff : graph.cycles = [] ↔ graph.IsAcyclic := by
  constructor
  · intro h id hback
    obtain ⟨cycle, hcycle, -⟩ := covered_of_transGen hback
    rw [h] at hcycle
    exact List.not_mem_nil hcycle
  · intro h
    rw [List.eq_nil_iff_forall_not_mem]
    intro cycle hcycle
    exact h.not_isCircuit (isCycle_of_mem_cycles hcycle).toIsCircuit

/-- The cycles that are found are cycles, no two of them with the same members, and
there is one in the component of every circuit; so there is none exactly in acyclic
graphs. -/
theorem cycles_exact (graph : Graph) :
    (∀ cycle ∈ graph.cycles, graph.IsCycle cycle)
      ∧ graph.cycles.Pairwise MembersDiffer
      ∧ (∀ circuit, graph.IsCircuit circuit →
          ∃ cycle ∈ graph.cycles, ∀ id ∈ circuit, ∀ member ∈ cycle,
            graph.SameComponent id member)
      ∧ (graph.cycles = [] ↔ graph.IsAcyclic) := by
  refine ⟨fun _ => isCycle_of_mem_cycles, pairwise_cycles graph, ?_, cycles_eq_nil_iff⟩
  intro circuit hcircuit
  obtain ⟨last, hlast⟩ := hcircuit.exists_last
  have hmem : last ∈ circuit := List.mem_of_mem_getLast? hlast
  obtain ⟨cycle, hcycle, hsame⟩ := covered_of_transGen (hcircuit.leads hmem hmem)
  refine ⟨cycle, hcycle, fun id hid member hmember => ?_⟩
  exact (hcircuit.sameComponent hid hmem).trans (hsame member hmember)

/-- Two nodes that lead to each other, by two edges one way, and one that leads to
itself; one edge dangles. -/
def loops : Graph where
  id := ""
  nodes :=
    [⟨"a", "", .page none, by decide⟩, ⟨"b", "", .page none, by decide⟩,
     ⟨"c", "", .page none, by decide⟩]
  edges :=
    [⟨"e1", "a", .out, "b", by decide⟩, ⟨"e2", "b", .out, "ghost", by decide⟩,
     ⟨"e3", "b", .out, "a", by decide⟩, ⟨"e4", "a", .whenTrue, "b", by decide⟩,
     ⟨"e5", "c", .out, "c", by decide⟩]
  distinct := by decide

theorem cycles_exact_loops :
    loops.cycles = [["a", "b"], ["c"]] ∧ loops.IsCycle ["a", "b"] ∧ loops.IsCircuit ["b", "a"]
      ∧ ∃ cycle ∈ loops.cycles, ∀ id ∈ ["b", "a"], ∀ member ∈ cycle,
          loops.SameComponent id member := by
  have hcycles : loops.cycles = [["a", "b"], ["c"]] := by cbv
  have hcircuit : loops.IsCircuit ["b", "a"] :=
    { ne_nil := by decide
      joined := List.isChain_pair.2 (by unfold Joined; decide)
      closed := by
        rintro first hfirst last hlast
        obtain rfl : "b" = first := by simpa using hfirst
        obtain rfl : "a" = last := by simpa using hlast
        unfold Joined
        decide }
  obtain ⟨hfound, -, hcover, -⟩ := cycles_exact loops
  exact ⟨hcycles, hfound ["a", "b"] (by rw [hcycles]; decide), hcircuit, hcover _ hcircuit⟩

end FormAutomation.Graph
