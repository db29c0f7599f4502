import FormAutomation.Text.Blank
import FormAutomation.Text.Case
import FormAutomation.Value.Basic

/-!
# Issues

What a check reports is an issue: a code, how severe it is, a message, and the
node and edge it is about.  A report lists errors first, then warnings, then the
rest, and within each by code, node and edge; issues that agree in all of these
stay in the order in which they were found.
-/

namespace FormAutomation

/-- Something that a check reports. -/
structure Issue where
  /-- the code of the rule -/
  code : String
  /-- `error`, `warning` or another word -/
  severity : String
  /-- what is wrong -/
  message : String
  /-- the node it is about -/
  node : Option String
  /-- the edge it is about -/
  edge : Option String
  /-- what can be done -/
  hint : Option String
  deriving DecidableEq

namespace Issue

/-- The word for what makes a graph invalid. -/
def errorWord : String := "error"

/-- The word for what may be left as it is. -/
def warningWord : String := "warning"

/-- Whether the issue is an error. -/
def isError (issue : Issue) : Bool :=
  issue.severity == errorWord

/-- Whether the issue is a warning. -/
def isWarning (issue : Issue) : Bool :=
  issue.severity == warningWord

/-- A text that says something. -/
def said (text? : Option String) : Option String :=
  text?.filter (· ≠ "")

/-- The issue as an object; what says nothing is left out. -/
def toValue (issue : Issue) : Value :=
  let entry (name : String) (text? : Option String) : Entries Value :=
    ((said text?).map fun s => (name, Value.text s)).toList
  .object ([("code", .text issue.code), ("severity", .text issue.severity),
    ("message", .text issue.message)]
      ++ entry "nodeId" issue.node ++ entry "edgeId" issue.edge ++ entry "hint" issue.hint)

/-! ## One line -/

/-- Where the issue is, in brackets. -/
def place (issue : Issue) : String :=
  let node := (said issue.node).map fun id => s!"node={id}"
  let edge := (said issue.edge).map fun id => s!"edge={id}"
  let parts := ", ".intercalate (node.toList ++ edge.toList)
  if parts = "" then "" else s!" ({parts})"

/-- The text without points at its end. -/
def withoutPoints (s : String) : String :=
  String.ofList (Text.dropRightWhile (· == '.') s.toList)

/-- The issue on one line. -/
def line (issue : Issue) : String :=
  let hint := match said issue.hint with
    | some hint => s!" Hint: {hint}"
    | none => ""
  let message := withoutPoints issue.message
  let text := s!"[{Text.upper issue.severity}] {issue.code}: {message}{issue.place}.{hint}"
  String.ofList (Text.dropRightWhile Text.isBlank text.toList)

/-! ## Reports -/

/-- The place of a severity in a report. -/
def rank (issue : Issue) : Nat :=
  if issue.isError then 0 else if issue.isWarning then 1 else 9

/-- How two issues compare in a report. -/
def reportOrder (a b : Issue) : Ordering :=
  (compare a.rank b.rank).then ((compare a.code b.code).then
    ((compare (a.node.getD "") (b.node.getD "")).then
      (compare (a.edge.getD "") (b.edge.getD ""))))

/-- The issues in the order of a report. -/
def inReportOrder (issues : List Issue) : List Issue :=
  issues.mergeSort fun a b => (reportOrder a b).isLE

/-- The issues, one on each line. -/
def report (issues : List Issue) : String :=
  "\n".intercalate ((inReportOrder issues).map fun issue => s!"- {issue.line}")

end Issue

end FormAutomation
