import FormAutomation.Check.Graph

/-!
# Which check reports what

An issue has a code, and every code belongs to one check.  So the issues of some codes
are what one check finds, in the order in which it finds it, whatever the other checks
find before and after.
-/

namespace FormAutomation

namespace Check

/-- All that was found is reported under these codes. -/
def ReportedAs (codes : List String) (found : List Finding) : Prop :=
  ∀ finding ∈ found, finding.issue.code ∈ codes

variable {graph : Graph} {codes : List String} {found rest : List Finding}

/-! ## The codes of each check -/

theorem reportedAs_danglingEdges : ReportedAs ["EDGE_DANGLING"] (danglingEdges graph) := by
  intro finding h
  obtain ⟨edge, -, hm⟩ := List.mem_flatMap.1 h
  obtain ⟨id, -, rfl⟩ := List.mem_map.1 hm
  exact List.mem_singleton_self _

theorem ReportedAs.cons {finding : Finding} (hf : finding.issue.code ∈ codes)
    (h : ReportedAs codes found) : ReportedAs codes (finding :: found) :=
  List.forall_mem_cons.2 ⟨hf, h⟩

theorem reportedAs_portFaults {taken : List (String × Port)} {edges : List Edge} :
    ReportedAs ["EDGE_PORT_INVALID", "EDGE_PORT_DUPLICATE"] (portFaults graph taken edges) := by
  induction edges generalizing taken with
  | nil => exact fun _ h => absurd h List.not_mem_nil
  | cons edge rest ih =>
    unfold portFaults
    split
    · exact ih
    · split
      · split
        · exact ih.cons (List.mem_cons_of_mem _ (List.mem_singleton_self _))
        · exact ih
      · split
        · exact ih.cons List.mem_cons_self
        · exact ih.cons List.mem_cons_self

theorem reportedAs_enteredTriggers :
    ReportedAs ["TRIGGER_HAS_INCOMING"] (enteredTriggers graph) := by
  intro finding h
  obtain ⟨node, -, hm⟩ := List.mem_flatMap.1 h
  obtain ⟨edge, -, rfl⟩ := List.mem_map.1 hm
  exact List.mem_singleton_self _

theorem reportedAs_noTrigger :
    ReportedAs ["TRIGGER_MISSING"] (if graph.triggers.isEmpty then [.noTrigger] else []) := by
  split
  · exact fun _ h => by simp_all [Finding.issue, Finding.warning]
  · exact fun _ h => absurd h List.not_mem_nil

theorem reportedAs_unreachable (nodes : List Node) :
    ReportedAs ["NODE_UNREACHABLE"] (nodes.map .unreachable) := by
  intro finding h
  obtain ⟨node, -, rfl⟩ := List.mem_map.1 h
  exact List.mem_singleton_self _

theorem reportedAs_configurationFaults :
    ReportedAs ["CONFIG_MISSING"] (configurationFaults graph) := by
  intro finding h
  obtain ⟨node, -, hm⟩ := List.mem_flatMap.1 h
  obtain ⟨part, -, rfl⟩ := List.mem_map.1 hm
  exact List.mem_singleton_self _

theorem reportedAs_openBranches :
    ReportedAs ["BRANCH_INCOMPLETE"] (openBranches graph) := by
  intro finding h
  obtain ⟨node, -, hm⟩ := List.mem_flatMap.1 h
  obtain ⟨result, -, rfl⟩ := List.mem_map.1 hm
  exact List.mem_singleton_self _

theorem reportedAs_cycleFaults : ReportedAs ["GRAPH_CYCLE"] (cycleFaults graph) := by
  intro finding h
  obtain ⟨cycle, -, rfl⟩ := List.mem_map.1 h
  exact List.mem_singleton_self _

/-! ## Checks taken together -/

theorem ReportedAs.append {others : List String} (h : ReportedAs codes found)
    (h' : ReportedAs others rest) : ReportedAs (codes ++ others) (found ++ rest) := by
  intro finding hfinding
  rcases List.mem_append.1 hfinding with hfinding | hfinding
  · exact List.mem_append_left _ (h finding hfinding)
  · exact List.mem_append_right _ (h' finding hfinding)

theorem reportedAs_structureFaults :
    ReportedAs ["EDGE_DANGLING", "EDGE_PORT_INVALID", "EDGE_PORT_DUPLICATE",
      "TRIGGER_HAS_INCOMING"] (structureFaults graph) :=
  (reportedAs_danglingEdges.append reportedAs_portFaults).append reportedAs_enteredTriggers

theorem reportedAs_reachFaults :
    ReportedAs ["TRIGGER_MISSING", "NODE_UNREACHABLE"] (reachFaults graph) :=
  reportedAs_noTrigger.append (reportedAs_unreachable _)

/-! ## The issues of some codes -/

/-- The issues of these codes among those that report findings. -/
def issuesOf (codes : List String) (found : List Finding) : List Issue :=
  (found.map Finding.issue).filter fun issue => decide (issue.code ∈ codes)

theorem issuesOf_append :
    issuesOf codes (found ++ rest) = issuesOf codes found ++ issuesOf codes rest := by
  simp [issuesOf]

/-- What is reported under these codes is among their issues. -/
theorem ReportedAs.issuesOf_eq (h : ReportedAs codes found) :
    issuesOf codes found = found.map Finding.issue := by
  rw [issuesOf, List.filter_eq_self]
  intro issue hissue
  obtain ⟨finding, hfinding, rfl⟩ := List.mem_map.1 hissue
  exact decide_eq_true (h finding hfinding)

/-- What is reported under other codes is not. -/
theorem ReportedAs.issuesOf_eq_nil {others : List String} (h : ReportedAs others found)
    (hd : ∀ code ∈ others, code ∉ codes) : issuesOf codes found = [] := by
  rw [issuesOf, List.filter_eq_nil_iff]
  intro issue hissue
  obtain ⟨finding, hfinding, rfl⟩ := List.mem_map.1 hissue
  exact fun hcode => hd _ (h finding hfinding) (of_decide_eq_true hcode)

end Check

namespace Graph

open Check

variable {graph : Graph}

/-- The issues of a graph that have one of these codes. -/
def issuesOf (graph : Graph) (codes : List String) : List Issue :=
  graph.issues.filter fun issue => decide (issue.code ∈ codes)

/-- The issues of a graph with nodes are those of one check after the other. -/
theorem issuesOf_eq (codes : List String) (h : graph.nodes ≠ []) :
    graph.issuesOf codes
      = Check.issuesOf codes (danglingEdges graph)
        ++ Check.issuesOf codes (portFaults graph [] graph.edges)
        ++ Check.issuesOf codes (enteredTriggers graph)
        ++ Check.issuesOf codes (if graph.triggers.isEmpty then [.noTrigger] else [])
        ++ Check.issuesOf codes ((graph.nodes.filter fun node => node.id ∉ graph.reached).map
          .unreachable)
        ++ Check.issuesOf codes (configurationFaults graph)
        ++ Check.issuesOf codes (openBranches graph)
        ++ Check.issuesOf codes (cycleFaults graph) := by
  have hfindings : graph.findings
      = structureFaults graph ++ reachFaults graph ++ configurationFaults graph
        ++ openBranches graph ++ cycleFaults graph := by
    rw [findings, if_neg (by simpa using h)]
  change Check.issuesOf codes graph.findings = _
  rw [hfindings, structureFaults, reachFaults]
  simp only [issuesOf_append, List.append_assoc]

/-- That nodes are not reachable is reported by one check. -/
theorem issuesOf_unreachable (graph : Graph) :
    graph.issuesOf ["NODE_UNREACHABLE"]
      = (graph.nodes.filter fun node => node.id ∉ graph.reached).map
        fun node => (Finding.unreachable node).issue := by
  by_cases h : graph.nodes = []
  · simp [issuesOf, issues, findings, h, Finding.issue, Finding.warning]
  · rw [issuesOf_eq _ h, reportedAs_danglingEdges.issuesOf_eq_nil (by decide),
      reportedAs_portFaults.issuesOf_eq_nil (by decide),
      reportedAs_enteredTriggers.issuesOf_eq_nil (by decide),
      reportedAs_noTrigger.issuesOf_eq_nil (by decide),
      (reportedAs_unreachable _).issuesOf_eq,
      reportedAs_configurationFaults.issuesOf_eq_nil (by decide),
      reportedAs_openBranches.issuesOf_eq_nil (by decide),
      reportedAs_cycleFaults.issuesOf_eq_nil (by decide)]
    simp

/-- Where there are no nodes all edges come from nowhere. -/
theorem portFaults_of_nodes_eq_nil (h : graph.nodes = []) {taken : List (String × Port)}
    {edges : List Edge} : portFaults graph taken edges = [] := by
  have hnone : ∀ id, graph.node? id = none := by simp [node?, h]
  induction edges generalizing taken with
  | nil => rfl
  | cons edge rest ih =>
    unfold portFaults
    rw [hnone]
    exact ih

/-- What is wrong with the ports of edges is reported by one check. -/
theorem issuesOf_ports (graph : Graph) :
    graph.issuesOf ["EDGE_PORT_INVALID", "EDGE_PORT_DUPLICATE"]
      = (portFaults graph [] graph.edges).map Finding.issue := by
  by_cases h : graph.nodes = []
  · rw [portFaults_of_nodes_eq_nil h]
    simp [issuesOf, issues, findings, h, Finding.issue, Finding.warning]
  · rw [issuesOf_eq _ h, reportedAs_danglingEdges.issuesOf_eq_nil (by decide),
      reportedAs_portFaults.issuesOf_eq,
      reportedAs_enteredTriggers.issuesOf_eq_nil (by decide),
      reportedAs_noTrigger.issuesOf_eq_nil (by decide),
      (reportedAs_unreachable _).issuesOf_eq_nil (by decide),
      reportedAs_configurationFaults.issuesOf_eq_nil (by decide),
      reportedAs_openBranches.issuesOf_eq_nil (by decide),
      reportedAs_cycleFaults.issuesOf_eq_nil (by decide)]
    simp

end Graph

end FormAutomation
