import FormAutomation.Graph.Basic
import FormAutomation.Payload.Complaint
import FormAutomation.Value.Literal

/-!
# The schema of a payload

How a payload in its present shape is read as a graph.  Every field may be
written in two ways, `triggerType` or `trigger_type`; the first wins when both
are there.  Entries that the schema does not name are passed over.  Nothing is
turned into a text; only truth values may be written in several ways.
-/

namespace FormAutomation.Payload.Schema

open Checked

/-- A field's name in the two ways it may be written. -/
structure Key where
  /-- the way it is written back -/
  written : String
  /-- the other way -/
  other : String

/-- A field that is written in one way only. -/
def Key.single (name : String) : Key := ⟨name, name⟩

/-- How the value at a place is read. -/
abbrev Reader (α : Type) := List String → Value → Checked α

/-- The name under which a field stands, and its value if there is one. -/
def find (record : Entries Value) (key : Key) : String × Option Value :=
  match record.lookup key.written with
  | some v => (key.written, some v)
  | none =>
    match record.lookup key.other with
    | some v => (key.other, some v)
    | none => (key.written, none)

/-- A field that has to be there. -/
def required {α : Type} (record : Entries Value) (location : List String) (key : Key)
    (read : Reader α) : Checked α :=
  match find record key with
  | (name, some v) => read (location ++ [name]) v
  | (name, none) => refuse (location ++ [name]) .missing

/-- A field that may be left out. -/
def optional {α : Type} (record : Entries Value) (location : List String) (key : Key)
    (default : α) (read : Reader α) : Checked α :=
  match find record key with
  | (name, some v) => read (location ++ [name]) v
  | (_, none) => .ok default

/-! ## Values -/

/-- A text. -/
def text : Reader String := fun location v =>
  match v with
  | .text s => .ok s
  | _ => refuse location .textExpected

/-- A text that says something. -/
def identifier : Reader { id : String // id ≠ "" } := fun location v =>
  match v with
  | .text s => if h : s ≠ "" then .ok ⟨s, h⟩ else refuse location .emptyText
  | _ => refuse location .textExpected

/-- One of some words. -/
def choice {α : Type} (name : α → String) (options : List α) : Reader α := fun location v =>
  match v with
  | .text s =>
    match options.find? (name · == s) with
    | some a => .ok a
    | none => refuse location (.choice (options.map name))
  | _ => refuse location (.choice (options.map name))

/-- Null, or a value. -/
def nullable {α : Type} (read : Reader α) : Reader (Option α) := fun location v =>
  match v with
  | .null => .ok none
  | v => (read location v).map some

/-- The words for false and those for true. -/
def falseWords : List String := ["0", "off", "f", "false", "n", "no"]

@[inherit_doc falseWords]
def trueWords : List String := ["1", "on", "t", "true", "y", "yes"]

/-- A text with its Latin capitals made small. -/
def lowerLatin (s : String) : String :=
  String.ofList (s.toList.map Char.toLower)

/-- The truth value of a whole number, which one and zero have; `fits` tells
whether it is taken for a number of sixty-four bits. -/
def wholeTruth (location : List String) (n : Int) (fits : Bool) : Checked Bool :=
  if n = 0 then .ok false
  else if n = 1 then .ok true
  else refuse location (if fits then .noTruth else .truthExpected)

/-- A truth value: itself, a one or zero, or one of some words in any letter
case. -/
def truth : Reader Bool := fun location v =>
  match v with
  | .bool b => .ok b
  | .int n => wholeTruth location n (-0x8000000000000000 ≤ n ∧ n < 0x8000000000000000)
  | .float x =>
    match x.toInt? with
    | some n => wholeTruth location n (-0x8000000000000000 < n ∧ n < 0x8000000000000000)
    | none => refuse location .truthExpected
  | .text s =>
    if falseWords.contains (lowerLatin s) then .ok false
    else if trueWords.contains (lowerLatin s) then .ok true
    else refuse location .noTruth
  | _ => refuse location .truthExpected

/-- A value to compare with; what is none could have been four things. -/
def scalar : Reader (Option Scalar) := fun location v =>
  match v with
  | .null => .ok none
  | .text s => .ok (some (.text s))
  | .int n => .ok (some (.int n))
  | .float x => .ok (some (.float x))
  | .bool b => .ok (some (.bool b))
  | _ =>
    .error [⟨location ++ ["str"], .textExpected⟩, ⟨location ++ ["int"], .wholeExpected⟩,
      ⟨location ++ ["float"], .numberExpected⟩, ⟨location ++ ["bool"], .truthExpected⟩]

/-- A list of values of one sort. -/
def listOf {α : Type} (read : Reader α) : Reader (List α) := fun location v =>
  match v with
  | .list items => all (fun index item => read (location ++ [toString index]) item) 0 items
  | _ => refuse location .listExpected

/-- An object whose values are texts. -/
def texts : Reader (Entries String) := fun location v =>
  match v with
  | .object fields =>
    all (fun _ entry => (text (location ++ [entry.1]) entry.2).map (entry.1, ·)) 0 fields
  | _ => refuse location .objectExpected

/-- An object of a sort. -/
def record {α : Type} (sort : String) (read : List String → Entries Value → Checked α) :
    Reader α := fun location v =>
  match v with
  | .object fields => read location fields
  | _ => refuse location (.recordExpected sort)

/-! ## Configurations -/

/-- A request. -/
def endpoint (location : List String) (config : Entries Value) : Checked Endpoint :=
  (both (optional config location (.single "url") none (nullable text))
    (both (optional config location (.single "method") .get (choice Method.name Method.all))
      (both (optional config location (.single "headers") [] texts)
        (optional config location ⟨"bodyTemplate", "body_template"⟩ none (nullable text))))).map
    fun (url, method, headers, bodyTemplate) => { url, method, headers, bodyTemplate }

/-- What becomes of a response. -/
def optionSource (location : List String) (config : Entries Value) : Checked OptionSource :=
  (both (optional config location ⟨"responsePath", "response_path"⟩ none (nullable text))
    (both (optional config location ⟨"labelKey", "label_key"⟩ "label" text)
      (both (optional config location ⟨"valueKey", "value_key"⟩ "value" text)
        (optional config location ⟨"targetFieldId", "target_field_id"⟩ none
          (nullable text))))).map
    fun (responsePath, labelKey, valueKey, targetField) =>
      { responsePath, labelKey, valueKey, targetField }

/-- A value to be set. -/
def assignment (location : List String) (entry : Entries Value) : Checked Assignment :=
  (both (optional entry location ⟨"from", "source"⟩ "" text)
    (optional entry location (.single "to") "" text)).map
    fun (source, target) => { source, target }

/-- The configuration of a node of a kind. -/
def action (kind : NodeKind) (location : List String) (config : Entries Value) :
    Checked Action :=
  match kind with
  | .trigger =>
    (both
      (optional config location ⟨"triggerType", "trigger_type"⟩ none
        (nullable (choice EventKind.name EventKind.all)))
      (optional config location ⟨"triggerFieldId", "trigger_field_id"⟩ none
        (nullable text))).map fun (event, field) => .trigger event field
  | .page => (optional config location ⟨"pageId", "page_id"⟩ none (nullable text)).map .page
  | .callApi => (endpoint location config).map .callApi
  | .fetchOptions =>
    (both (endpoint location config) (optionSource location config)).map
      fun (endpoint, options) => .fetchOptions endpoint options
  | .setData =>
    (optional config location (.single "mapping") []
      (listOf (record "DataMappingEntry" assignment))).map .setData
  | .showDialog =>
    (both (optional config location (.single "title") none (nullable text))
      (optional config location (.single "message") none (nullable text))).map
      fun (title, message) => .showDialog title message
  | .redirect =>
    (both (optional config location (.single "url") none (nullable text))
      (optional config location ⟨"newTab", "new_tab"⟩ false truth)).map
      fun (url, newTab) => .redirect url newTab
  | .condition =>
    (both (optional config location (.single "field") none (nullable text))
      (both
        (optional config location (.single "operator") none
          (nullable (choice Condition.Operator.name Condition.Operator.all)))
        (optional config location (.single "value") none scalar))).map
      fun (field, operator, value) => .condition field operator value

/-- The configuration object of a node of a kind. -/
def configuration (kind : NodeKind) : Reader Action := fun location v =>
  match v with
  | .object config => action kind location config
  | _ => refuse location .objectExpected

/-! ## Nodes, edges and graphs -/

/-- A node whose type is known. -/
def nodeOfKind (kind : NodeKind) (location : List String) (fields : Entries Value) :
    Checked Node :=
  (both (required fields location (.single "id") identifier)
    (both (optional fields location (.single "label") "" text)
      (required fields location (.single "config") (configuration kind)))).map
    fun (id, label, action) => { id := id.1, label, action, id_ne := id.2 }

/-- The names of the types of nodes. -/
def typeNames : List String :=
  NodeKind.all.map NodeKind.name

/-- A node.  Once its type is known, the type is part of the way to its
fields. -/
def node : Reader Node := fun location v =>
  match v with
  | .object fields =>
    match fields.lookup "type" with
    | none => refuse location .untyped
    | some (.text name) =>
      match NodeKind.ofName? name with
      | some kind => nodeOfKind kind (location ++ [name]) fields
      | none => refuse location (.unknownType name typeNames)
    | some type => refuse location (.unknownType type.shown typeNames)
  | _ => refuse location .nodeExpected

/-- An edge. -/
def edge (location : List String) (fields : Entries Value) : Checked Edge :=
  (both (required fields location (.single "id") identifier)
    (both (required fields location ⟨"sourceNodeId", "source_node_id"⟩ text)
      (both
        (optional fields location ⟨"sourcePort", "source_port"⟩ .out (choice Port.name Port.all))
        (required fields location ⟨"targetNodeId", "target_node_id"⟩ text)))).map
    fun (id, source, port, target) => { id := id.1, source, port, target, id_ne := id.2 }

/-- The parts of a graph, before its ids are compared. -/
structure Parts where
  /-- the name of the graph -/
  id : String
  /-- the nodes in order -/
  nodes : List Node
  /-- the edges in order -/
  edges : List Edge

/-- The parts of a graph. -/
def parts (fields : Entries Value) : Checked Parts :=
  (both (optional fields [] (.single "id") "" text)
    (both (optional fields [] (.single "nodes") [] (listOf node))
      (optional fields [] (.single "edges") [] (listOf (record "WorkflowEdge" edge))))).map
    fun (id, nodes, edges) => { id, nodes, edges }

/-- The first name that was there before. -/
def firstRepeated : List String → List String → Option String
  | _, [] => none
  | seen, name :: rest => if name ∈ seen then some name else firstRepeated (name :: seen) rest

/-- The graph of these parts, unless two nodes have the same id. -/
def assemble (parts : Parts) : Checked Graph :=
  if distinct : (parts.nodes.map (·.id)).Nodup then
    .ok { id := parts.id, nodes := parts.nodes, edges := parts.edges, distinct }
  else refuse [] (.duplicate ((firstRepeated [] (parts.nodes.map (·.id))).getD ""))

/-- A graph. -/
def graph (fields : Entries Value) : Checked Graph := do
  assemble (← parts fields)

/-- A workflow. -/
def workflow (fields : Entries Value) : Checked Workflow := do
  let (parts, name, enabled) ← both (parts fields)
    (both (optional fields [] (.single "name") "" text)
      (optional fields [] (.single "enabled") true truth))
  let graph ← assemble parts
  .ok { graph with name, enabled }

end FormAutomation.Payload.Schema
