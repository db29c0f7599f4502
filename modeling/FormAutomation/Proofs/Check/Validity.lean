import FormAutomation.Proofs.Check.Code
import FormAutomation.Proofs.Check.Cycle

/-!
# What a valid graph is

Some findings make a graph invalid, others are only remarks.  Which is which is
read off the issues that report them: what is wrong with edges or configurations
is an error, and so is a cycle; that there is no trigger, that a node is not
reached or that a branch is open is not.  So a graph with nodes is valid exactly
if three of the checks find nothing.
-/

namespace FormAutomation

/-- Whether a finding makes a graph invalid. -/
def Finding.isFault : Finding → Bool
  | .empty => false
  | .noTrigger => false
  | .unreachable _ => false
  | .openBranch _ _ => false
  | _ => true

/-- What makes a graph invalid is reported as an error, and nothing else is. -/
theorem Finding.isError_issue (finding : Finding) : finding.issue.isError = finding.isFault := by
  cases finding <;> rfl

/-- The codes under which findings are reported that do not make a graph invalid. -/
def Finding.remarks : List String :=
  ["GRAPH_EMPTY", "TRIGGER_MISSING", "NODE_UNREACHABLE", "BRANCH_INCOMPLETE"]

/-- Whether a finding makes a graph invalid can be told from its code. -/
theorem Finding.isFault_iff_code (finding : Finding) :
    finding.isFault = true ↔ finding.issue.code ∉ remarks := by
  cases finding <;> simp [isFault, issue, error, warning, remarks]

namespace Check

variable {codes : List String} {found : List Finding}

theorem ReportedAs.isFault (h : ReportedAs codes found)
    (hc : ∀ code ∈ codes, code ∉ Finding.remarks) :
    ∀ finding ∈ found, finding.isFault = true := by
  intro finding hfinding
  exact finding.isFault_iff_code.2 (hc _ (h finding hfinding))

theorem ReportedAs.not_isFault (h : ReportedAs codes found)
    (hc : ∀ code ∈ codes, code ∈ Finding.remarks) :
    ∀ finding ∈ found, finding.isFault = false := by
  intro finding hfinding
  rw [Bool.eq_false_iff]
  exact fun hfault => finding.isFault_iff_code.1 hfault (hc _ (h finding hfinding))

end Check

namespace Graph

open Check

variable {graph : Graph}

theorem isValid_iff_findings :
    graph.isValid = true ↔ ∀ finding ∈ graph.findings, finding.isFault = false := by
  simp [isValid, issues, Finding.isError_issue]

/-- In a valid graph a check finds nothing if all that it could find is a fault. -/
theorem eq_nil_of_isValid {found : List Finding} (hv : graph.isValid = true)
    (hmem : ∀ finding ∈ found, finding ∈ graph.findings)
    (hfault : ∀ finding ∈ found, finding.isFault = true) : found = [] := by
  refine List.eq_nil_iff_forall_not_mem.2 fun finding hm => ?_
  have hnot := isValid_iff_findings.1 hv finding (hmem finding hm)
  rw [hfault finding hm] at hnot
  cases hnot

/-- A graph with nodes is valid exactly if nothing is wrong with its edges, nothing is
missing in its nodes and it has no cycles. -/
theorem isValid_iff (h : graph.nodes ≠ []) :
    graph.isValid = true
      ↔ structureFaults graph = [] ∧ configurationFaults graph = [] ∧ graph.cycles = [] := by
  have hcycles : graph.cycles = [] ↔ cycleFaults graph = [] := by
    rw [cycleFaults, List.map_eq_nil_iff]
  have hfindings : graph.findings
      = structureFaults graph ++ reachFaults graph ++ configurationFaults graph
        ++ openBranches graph ++ cycleFaults graph := by
    rw [findings, if_neg (by simpa using h)]
  rw [hcycles]
  constructor
  · intro hv
    refine ⟨?_, ?_, ?_⟩
    · refine eq_nil_of_isValid hv ?_ (reportedAs_structureFaults.isFault (by decide))
      intro finding hm
      simp [hfindings, hm]
    · refine eq_nil_of_isValid hv ?_ (reportedAs_configurationFaults.isFault (by decide))
      intro finding hm
      simp [hfindings, hm]
    · refine eq_nil_of_isValid hv ?_ (reportedAs_cycleFaults.isFault (by decide))
      intro finding hm
      simp [hfindings, hm]
  · rintro ⟨hstructure, hconfiguration, hcycle⟩
    rw [isValid_iff_findings]
    intro finding hm
    rw [hfindings, hstructure, hconfiguration, hcycle, List.nil_append, List.append_nil,
      List.append_nil, List.mem_append] at hm
    rcases hm with hm | hm
    · exact reportedAs_reachFaults.not_isFault (by decide) finding hm
    · exact reportedAs_openBranches.not_isFault (by decide) finding hm

/-- In a valid graph with nodes no edge dangles. -/
theorem mem_ids_of_isValid (hv : graph.isValid = true) (hn : graph.nodes ≠ []) {edge : Edge}
    (he : edge ∈ graph.edges) : edge.source ∈ graph.ids ∧ edge.target ∈ graph.ids := by
  obtain ⟨hstructure, -, -⟩ := (isValid_iff hn).1 hv
  have hdangling : ∀ id ∈ [edge.source, edge.target], id ∈ graph.ids := by
    intro id hid
    by_contra hmissing
    have hm : Finding.dangling edge id ∈ structureFaults graph := by
      refine List.mem_append_left _ (List.mem_append_left _ ?_)
      refine List.mem_flatMap.2 ⟨edge, he, List.mem_map_of_mem ?_⟩
      exact List.mem_filter.2 ⟨hid, by simpa [← has_iff] using hmissing⟩
    rw [hstructure] at hm
    exact List.not_mem_nil hm
  exact ⟨hdangling _ (by simp), hdangling _ (by simp)⟩

/-- A valid graph with nodes is acyclic. -/
theorem isAcyclic_of_isValid (hv : graph.isValid = true) (hn : graph.nodes ≠ []) :
    graph.IsAcyclic :=
  cycles_eq_nil_iff.1 ((isValid_iff hn).1 hv).2.2

end Graph

end FormAutomation
