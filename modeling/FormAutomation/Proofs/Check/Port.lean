import FormAutomation.Proofs.Check.Code
import FormAutomation.Proofs.Check.Invariants
import FormAutomation.Run.Basic

/-!
# Which edges a run follows, and which are reported

A run leaves a node by the first edge on the port that what the node did calls for; later
edges on the port, and edges on ports that the node never calls for, are not followed.  The
check of ports goes over the edges once and remembers the ports that were left before; it
reports exactly the edges from existing nodes that are not followed, one after the other.

Edges are told apart by their places, since two of them may agree in everything else.
-/

namespace FormAutomation

namespace Graph

/-- The place of the edge by which a run leaves a node at a port, the first of them. -/
def place? (graph : Graph) (node : Node) (port : Port) : Option Nat :=
  graph.edges.findIdx? fun edge => edge.source == node.id && edge.port == port

/-- A run may follow the edge at a place: a node is left by it after something that the node
can do. -/
def IsFollowed (graph : Graph) (place : Nat) : Prop :=
  ∃ node ∈ graph.nodes, ∃ effect : Effect, effect.branch.isSome = (node.kind == .condition)
    ∧ graph.place? node (Run.portAfter effect) = some place

/-- What is wrong with an edge by which a node is never left. -/
def portFault (node : Node) (edge : Edge) : Finding :=
  if node.kind.Offers edge.port then .portTaken node edge
  else if edge.port = .out then .outOfCondition node edge
  else .branchOfOther node edge

variable {graph : Graph} {node : Node} {port : Port} {edge : Edge} {before rest : List Edge}
  {place : Nat}

/-! ## Followed edges -/

/-- The id that a run goes on to is the target of the edge at the place. -/
theorem next?_eq_place (graph : Graph) (node : Node) (effect : Effect) :
    Run.next? graph node effect
      = (graph.place? node (Run.portAfter effect)).bind
        fun place => graph.edges[place]?.map (·.target) := by
  rw [Run.next?, outgoingOn, List.head?_filter, List.find?_eq_bind_findIdx?_getElem?,
    Option.map_bind]
  rfl

/-- A node has the ports that what it can do calls for. -/
theorem offers_iff_exists_effect :
    node.kind.Offers port
      ↔ ∃ effect : Effect, effect.branch.isSome = (node.kind == .condition)
        ∧ Run.portAfter effect = port := by
  unfold NodeKind.Offers
  split
  · next hk =>
    constructor
    · rintro (rfl | rfl)
      · exact ⟨{ report := .nothing, branch := some true }, by simp [hk], rfl⟩
      · exact ⟨{ report := .nothing, branch := some false }, by simp [hk], rfl⟩
    · rintro ⟨effect, hbranch, rfl⟩
      obtain ⟨result, hresult⟩ := Option.isSome_iff_exists.1 (by simpa [hk] using hbranch)
      cases result <;> simp [Run.portAfter, hresult, Port.ofBranch]
  · next hk =>
    constructor
    · rintro rfl
      exact ⟨{ report := .nothing }, by simp [hk], rfl⟩
    · rintro ⟨effect, hbranch, rfl⟩
      rw [beq_eq_false_iff_ne.2 hk] at hbranch
      have hnone : effect.branch = none := by simpa using hbranch
      simp [Run.portAfter, hnone]

theorem isFollowed_iff_offers :
    graph.IsFollowed place
      ↔ ∃ node ∈ graph.nodes, ∃ port ∈ Port.all, node.kind.Offers port
        ∧ graph.place? node port = some place := by
  constructor
  · rintro ⟨node, hnode, effect, hbranch, hplace⟩
    refine ⟨node, hnode, _, ?_, offers_iff_exists_effect.2 ⟨effect, hbranch, rfl⟩, hplace⟩
    cases Run.portAfter effect <;> decide
  · rintro ⟨node, hnode, port, -, hoffers, hplace⟩
    obtain ⟨effect, hbranch, rfl⟩ := offers_iff_exists_effect.1 hoffers
    exact ⟨node, hnode, effect, hbranch, hplace⟩

instance (place : Nat) : Decidable (graph.IsFollowed place) :=
  decidable_of_iff _ isFollowed_iff_offers.symm

/-- The first element with a property stands after elements without it. -/
theorem findIdx?_append_cons_iff {p : Edge → Bool} :
    (before ++ edge :: rest).findIdx? p = some before.length
      ↔ p edge = true ∧ ∀ other ∈ before, p other = false := by
  rw [List.findIdx?_eq_some_iff_getElem]
  constructor
  · rintro ⟨hlt, hedge, hbefore⟩
    refine ⟨by simpa using hedge, fun other hother => ?_⟩
    obtain ⟨i, hi, rfl⟩ := List.getElem_of_mem hother
    have hnot := hbefore i hi
    rw [List.getElem_append_left hi] at hnot
    exact Bool.eq_false_iff.2 hnot
  · rintro ⟨hedge, hbefore⟩
    refine ⟨by simp, by simpa using hedge, fun i hi => ?_⟩
    rw [List.getElem_append_left hi, hbefore _ (List.getElem_mem hi)]
    exact Bool.false_ne_true

/-- An edge is followed exactly if it leaves an existing node by a port of the node and no
edge before it does. -/
theorem isFollowed_iff (h : graph.edges = before ++ edge :: rest) :
    graph.IsFollowed before.length
      ↔ ∃ node ∈ graph.node? edge.source, node.kind.Offers edge.port
        ∧ ∀ other ∈ before, other.source = edge.source → other.port ≠ edge.port := by
  rw [isFollowed_iff_offers]
  unfold place?
  constructor
  · rintro ⟨node, hnode, port, -, hoffers, hplace⟩
    rw [h, findIdx?_append_cons_iff] at hplace
    obtain ⟨hedge, hbefore⟩ := hplace
    obtain ⟨hsource, rfl⟩ : edge.source = node.id ∧ edge.port = port := by simpa using hedge
    refine ⟨node, ?_, hoffers, fun other hother hs hp => ?_⟩
    · rw [hsource]
      exact node?_of_mem hnode
    · have := hbefore other hother
      simp [hs, hp, hsource] at this
  · rintro ⟨node, hnode, hoffers, hbefore⟩
    obtain ⟨hmem, hid⟩ := node?_eq_some_iff.1 hnode
    refine ⟨node, hmem, edge.port, by cases edge.port <;> decide, hoffers, ?_⟩
    rw [h, findIdx?_append_cons_iff]
    refine ⟨by simp [hid], fun other hother => ?_⟩
    have hport := hbefore other hother
    rw [← hid] at hport
    simpa using hport

/-! ## Reported edges -/

/-- What is reported of the edge at a place, if anything is. -/
def flag? (graph : Graph) (entry : Edge × Nat) : Option Finding :=
  if graph.IsFollowed entry.2 then none
  else (graph.node? entry.1.source).map (portFault · entry.1)

/-- What the check remembers of the edges that it has gone over: the ports by which they
leave nodes, as far as the nodes have them. -/
def Remembers (graph : Graph) (taken : List (String × Port)) (before : List Edge) : Prop :=
  ∀ node ∈ graph.nodes, ∀ port, node.kind.Offers port →
    ((node.id, port) ∈ taken ↔ ∃ other ∈ before, other.source = node.id ∧ other.port = port)

variable {taken : List (String × Port)}

theorem remembers_nil : graph.Remembers [] [] := by
  intro node _ port _
  simp

/-- An edge that leaves no node by a port of its own, or by one that was left before, is
passed over. -/
theorem Remembers.pass (h : graph.Remembers taken before)
    (ht : ∀ node ∈ graph.nodes, node.kind.Offers edge.port → edge.source = node.id →
      (node.id, edge.port) ∈ taken) : graph.Remembers taken (before ++ [edge]) := by
  intro node hnode port hoffers
  rw [h node hnode port hoffers]
  constructor
  · rintro ⟨other, hother, heq⟩
    exact ⟨other, List.mem_append_left _ hother, heq⟩
  · rintro ⟨other, hother, hsource, rfl⟩
    rcases List.mem_append.1 hother with hother | hother
    · exact ⟨other, hother, hsource, rfl⟩
    · obtain rfl := List.mem_singleton.1 hother
      exact (h node hnode _ hoffers).1 (ht node hnode hoffers hsource)

/-- One that leaves a node by a port that was not left before takes the port. -/
theorem Remembers.take (h : graph.Remembers taken before) :
    graph.Remembers ((edge.source, edge.port) :: taken) (before ++ [edge]) := by
  intro node hnode port hoffers
  rw [List.mem_cons, h node hnode port hoffers, Prod.mk.injEq]
  constructor
  · rintro (⟨hsource, rfl⟩ | ⟨other, hother, heq⟩)
    · exact ⟨edge, List.mem_append_right _ (List.mem_singleton_self _), hsource.symm, rfl⟩
    · exact ⟨other, List.mem_append_left _ hother, heq⟩
  · rintro ⟨other, hother, hsource, rfl⟩
    rcases List.mem_append.1 hother with hother | hother
    · exact .inr ⟨other, hother, hsource, rfl⟩
    · obtain rfl := List.mem_singleton.1 hother
      exact .inl ⟨hsource.symm, rfl⟩

/-- An edge from an existing node is followed exactly if it leaves the node by a port of its
own that is not remembered. -/
theorem Remembers.isFollowed_iff (hr : graph.Remembers taken before)
    (h : graph.edges = before ++ edge :: rest) (hs : graph.node? edge.source = some node) :
    graph.IsFollowed before.length
      ↔ node.kind.Offers edge.port ∧ (node.id, edge.port) ∉ taken := by
  obtain ⟨hmem, hid⟩ := node?_eq_some_iff.1 hs
  rw [Graph.isFollowed_iff h, hs]
  constructor
  · rintro ⟨_, ⟨rfl⟩, hoffers, hbefore⟩
    refine ⟨hoffers, fun htaken => ?_⟩
    obtain ⟨other, hother, hsource, hport⟩ := (hr node hmem _ hoffers).1 htaken
    exact hbefore other hother (hsource.trans hid) hport
  · rintro ⟨hoffers, hfree⟩
    refine ⟨node, rfl, hoffers, fun other hother hsource hport => hfree ?_⟩
    exact (hr node hmem _ hoffers).2 ⟨other, hother, hsource.trans hid.symm, hport⟩

/-- The check finds what is to be reported of the edges that are left. -/
theorem portFaults_eq_flags (hr : graph.Remembers taken before)
    (h : graph.edges = before ++ rest) :
    Check.portFaults graph taken rest
      = (rest.zipIdx before.length).filterMap graph.flag? := by
  -- the edges before are those that the check has gone over
  induction rest generalizing before taken with
  | nil => rfl
  | cons edge rest ih =>
    have hnext : graph.edges = (before ++ [edge]) ++ rest := by simp [h]
    have hlength : (before ++ [edge]).length = before.length + 1 := by simp
    rw [List.zipIdx_cons, List.filterMap_cons, ← hlength]
    rcases hs : graph.node? edge.source with _ | node
    · -- an edge from nowhere
      have hflag : graph.flag? (edge, before.length) = none := by simp [flag?, hs]
      simp only [Check.portFaults, hs, hflag]
      refine ih (hr.pass fun node hnode _ hsource => ?_) hnext
      rw [hsource, node?_of_mem hnode] at hs
      cases hs
    have hid : node.id = edge.source := (node?_eq_some_iff.1 hs).2
    have hfollowed := hr.isFollowed_iff h hs
    -- the edge leaves no other node
    have hunique : ∀ other ∈ graph.nodes, edge.source = other.id → other = node := by
      intro other hother hsource
      rw [hsource, node?_of_mem hother] at hs
      exact Option.some.inj hs
    by_cases hoffers : node.kind.Offers edge.port
    · by_cases htaken : (node.id, edge.port) ∈ taken
      · have hflag : graph.flag? (edge, before.length) = some (.portTaken node edge) := by
          simp [flag?, hfollowed, htaken, hs, portFault, hoffers]
        have hpass := hr.pass fun other hother _ hsource => hunique other hother hsource ▸ htaken
        simp only [Check.portFaults, hs, hflag, if_pos (Check.hasPort_iff.2 hoffers),
          if_pos htaken]
        rw [ih hpass hnext]
      · have hflag : graph.flag? (edge, before.length) = none := by
          simp [flag?, hfollowed, htaken, hoffers]
        simp only [Check.portFaults, hs, hflag, if_pos (Check.hasPort_iff.2 hoffers),
          if_neg htaken]
        rw [hid]
        exact ih hr.take hnext
    · have hflag : graph.flag? (edge, before.length) = some (portFault node edge) := by
        simp [flag?, hfollowed, hoffers, hs]
      have hpass := hr.pass fun other hother ho hsource =>
        absurd (hunique other hother hsource ▸ ho) hoffers
      simp only [Check.portFaults, hs, hflag, if_neg (mt Check.hasPort_iff.1 hoffers),
        portFault, if_neg hoffers]
      split
      · rw [ih hpass hnext]
      · rw [ih hpass hnext]

/-- What is reported of the ports of edges is what is to be reported of one edge after the
other. -/
theorem issuesOf_ports_eq (graph : Graph) :
    graph.issuesOf ["EDGE_PORT_INVALID", "EDGE_PORT_DUPLICATE"]
      = (graph.edges.zipIdx.filterMap graph.flag?).map Finding.issue := by
  have hfaults : Check.portFaults graph [] graph.edges
      = graph.edges.zipIdx.filterMap graph.flag? := portFaults_eq_flags remembers_nil rfl
  rw [issuesOf_ports, hfaults]

/-- Nothing is to be reported of an edge from an existing node exactly if it is followed. -/
theorem flag?_eq_none_iff (hs : graph.has edge.source = true) :
    graph.flag? (edge, place) = none ↔ graph.IsFollowed place := by
  obtain ⟨node, hnode⟩ := Option.isSome_iff_exists.1 hs
  unfold flag?
  split
  · next h => simp [h]
  · next h => simp [h, hnode]

/-- What is reported of an edge bears its name. -/
theorem edge_of_flag? {entry : Edge × Nat} {finding : Finding}
    (h : graph.flag? entry = some finding) : finding.issue.edge = some entry.1.id := by
  unfold flag? at h
  split at h
  · cases h
  · obtain ⟨node, -, rfl⟩ := Option.map_eq_some_iff.1 h
    unfold portFault
    split
    · rfl
    · split <;> rfl

/-- Where no two edges have the same name, the names in the reports tell which edges are not
followed. -/
theorem isFollowed_iff_unnamed (hd : (graph.edges.map (·.id)).Nodup)
    (he : graph.edges[place]? = some edge) (hs : graph.has edge.source = true) :
    graph.IsFollowed place
      ↔ ∀ issue ∈ graph.issuesOf ["EDGE_PORT_INVALID", "EDGE_PORT_DUPLICATE"],
        issue.edge ≠ some edge.id := by
  rw [← flag?_eq_none_iff hs, issuesOf_ports_eq]
  constructor
  · intro hnone issue hissue hname
    obtain ⟨finding, hfinding, rfl⟩ := List.mem_map.1 hissue
    obtain ⟨⟨other, i⟩, hentry, hflag⟩ := List.mem_filterMap.1 hfinding
    have hother : graph.edges[i]? = some other := List.mk_mem_zipIdx_iff_getElem?.1 hentry
    have hid : other.id = edge.id := Option.some.inj ((edge_of_flag? hflag).symm.trans hname)
    have hlt : i < (graph.edges.map (·.id)).length := by
      simpa using (List.getElem?_eq_some_iff.1 hother).1
    have hplace : i = place := (List.getElem?_inj hlt hd).1 (by simp [hother, he, hid])
    subst hplace
    rw [Option.some.inj (hother.symm.trans he), hnone] at hflag
    cases hflag
  · intro h
    rcases hflag : graph.flag? (edge, place) with _ | finding
    · rfl
    · refine absurd (edge_of_flag? hflag) (h _ (List.mem_map_of_mem ?_))
      exact List.mem_filterMap.2 ⟨_, List.mk_mem_zipIdx_iff_getElem?.2 he, hflag⟩

end Graph

end FormAutomation
