import FormAutomation.Check.Configuration
import FormAutomation.Check.Cycle
import FormAutomation.Check.Structure

/-!
# Checking a graph

All checks, one after the other: edges and ports, reachability, configurations,
branches, cycles.  A graph without nodes is valid, with a warning.
-/

namespace FormAutomation

namespace Graph

/-- What the checks find out. -/
def findings (graph : Graph) : List Finding :=
  if graph.nodes.isEmpty then [.empty]
  else
    Check.structureFaults graph ++ Check.reachFaults graph ++ Check.configurationFaults graph
      ++ Check.openBranches graph ++ Check.cycleFaults graph

/-- What the checks report. -/
def issues (graph : Graph) : List Issue :=
  graph.findings.map Finding.issue

/-- Whether no error is reported. -/
def isValid (graph : Graph) : Bool :=
  !graph.issues.any Issue.isError

end Graph

/-- A report as an object. -/
def Issue.summary (isValid : Bool) (issues : List Issue) : Value :=
  .object [("valid", .bool isValid), ("issues", .list (issues.map Issue.toValue))]

end FormAutomation
