import FormAutomation.Number.Notation
import FormAutomation.Text.Quoted
import FormAutomation.Value.Basic

/-!
# Values in messages

A message that names a value of any kind shows it as a literal: `None`, `True`
and `False`, numbers with their point, lists and objects with their contents,
and inside those every text in quotes.
-/

namespace FormAutomation.Value

mutual

/-- A value as a literal. -/
def literalChars : Value → List Char
  | .null => "None".toList
  | .bool b => if b then "True".toList else "False".toList
  | .int n => intText n
  | .float x => Layout.plain.write x
  | .text s => (Text.quoted s).toList
  | .list items => '[' :: (literalItems items ++ [']'])
  | .object fields => '{' :: (literalFields fields ++ ['}'])

/-- The items of a list. -/
def literalItems : List Value → List Char
  | [] => []
  | [v] => literalChars v
  | v :: w :: rest => literalChars v ++ ',' :: ' ' :: literalItems (w :: rest)

/-- The entries of an object. -/
def literalFields : List (String × Value) → List Char
  | [] => []
  | [(name, v)] => (Text.quoted name).toList ++ ':' :: ' ' :: literalChars v
  | (name, v) :: next :: rest =>
    (Text.quoted name).toList ++ ':' :: ' ' :: literalChars v
      ++ ',' :: ' ' :: literalFields (next :: rest)

end

/-- How a message shows a value: a text as itself, anything else as a literal. -/
def shown : Value → String
  | .text s => s
  | v => String.ofList v.literalChars

/-- The value as a literal, a text in its quotes. -/
def literal (v : Value) : String :=
  String.ofList v.literalChars

end FormAutomation.Value
