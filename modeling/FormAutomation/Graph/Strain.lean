import FormAutomation.Graph.Basic
import FormAutomation.Value.Excess

/-!
# Paths that ask too much

A whole number with very many digits is not converted, and in a path the index of a
list is such a number.  Whether this does any harm depends on what the path is
followed in, since an index is converted where there is a list and nowhere else.
-/

namespace FormAutomation

/-- How many decimal digits in a row a text has at most; where it has none, this may
be one. -/
def longestIndex (text : String) : Nat :=
  let rows := text.toList.splitBy fun c d => Text.isDecimalDigit c && Text.isDecimalDigit d
  (rows.map List.length).foldl max 0

/-- The texts of an action that are paths or may hold some. -/
def Action.pathTexts : Action → List String
  | .trigger .. => []
  | .page _ => []
  | .callApi endpoint => endpoint.url.toList ++ endpoint.bodyTemplate.toList
  | .fetchOptions endpoint options =>
    endpoint.url.toList ++ endpoint.bodyTemplate.toList ++ options.responsePath.toList
  | .setData mapping => mapping.map Assignment.source
  | .showDialog title message => title.toList ++ message.toList
  | .redirect url _ => url.toList
  | .condition field _ _ => field.toList

/-- The strain of a graph, if there may be an index in it that is not converted. -/
def Graph.strain? (graph : Graph) : Option Strain :=
  if graph.nodes.any fun node =>
      node.action.pathTexts.any fun text => Numeral.longest < longestIndex text
  then some .index
  else none

end FormAutomation
