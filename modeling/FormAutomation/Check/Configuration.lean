import FormAutomation.Check.Finding

/-!
# Configurations and branches

What an author may have left open but a run needs: the event of a trigger, the
address of a request, what a condition compares.  A condition should also have
an edge for each of its results; without one a run ends there, which is allowed.
-/

namespace FormAutomation.Check

/-- Whether an optional text says nothing. -/
def isLeftOpen (text? : Option String) : Bool :=
  text?.getD "" == ""

/-- A part, if it is missing. -/
def partIf (isMissing : Bool) (part : MissingPart) : List MissingPart :=
  if isMissing then [part] else []

/-- The parts that an action lacks. -/
def missingParts : Action → List MissingPart
  | .trigger none _ => [.event]
  | .trigger (some .fieldChange) field => partIf (isLeftOpen field) .watchedField
  | .trigger (some _) _ => []
  | .page _ => []
  | .callApi endpoint => partIf (isLeftOpen endpoint.url) .url
  | .fetchOptions endpoint options =>
    partIf (isLeftOpen endpoint.url) .url ++ partIf (isLeftOpen options.targetField) .targetField
  | .setData mapping => partIf mapping.isEmpty .mapping
  | .showDialog _ _ => []
  | .redirect url _ => partIf (isLeftOpen url) .redirectUrl
  | .condition field operator _ =>
    partIf (isLeftOpen field) .comparedField ++ partIf operator.isNone .operator

/-- The missing parts of all nodes. -/
def configurationFaults (graph : Graph) : List Finding :=
  graph.nodes.flatMap fun node => (missingParts node.action).map (.missing node)

/-- The results of conditions for which there is no edge. -/
def openBranches (graph : Graph) : List Finding :=
  (graph.ofKind .condition).flatMap fun node =>
    ([true, false].filter fun result =>
      (graph.outgoingOn node.id (Port.ofBranch result)).isEmpty).map (.openBranch node)

end FormAutomation.Check
