import FormAutomation.Graph.Action
import FormAutomation.Value.Literal

/-!
# Older payload shapes

Payloads of an older editor say the same things in other places: a request may
stand in a block of its own, and some entries of a configuration have longer
names.  Migration moves them to where the schema reads them.  What is already
written the present way wins, and nothing else changes but that a method's name
is put in capitals and that edges are added when there are none.
-/

namespace FormAutomation.Payload

/-- A change that migration made. -/
inductive Migration.Note where
  /-- a node's request block was dissolved -/
  | flattened (node : String)
  /-- an entry of a node's configuration got its present name -/
  | renamed (node older present : String)
  deriving DecidableEq

/-- What is said of a change. -/
def Migration.Note.message : Migration.Note → String
  | .flattened node => s!"Node '{node}': flattened legacy 'api' block."
  | .renamed node older present => s!"Node '{node}': canonicalized '{older}' to '{present}'."

/-- Why a payload cannot be migrated: a node's type is a container. -/
inductive Migration.Fault where
  /-- the type is a list -/
  | listType
  /-- the type is an object -/
  | objectType
  deriving DecidableEq

/-- What is said of a fault. -/
def Migration.Fault.message : Migration.Fault → String
  | .listType => "unhashable type: 'list'"
  | .objectType => "unhashable type: 'dict'"

namespace Migration

/-- The entries of a request block that are taken over. -/
def requestKeys : List String :=
  ["url", "method", "headers", "bodyTemplate"]

/-- The kinds whose request may stand in a block. -/
def hasRequestBlock (type : Value) : Bool :=
  match type with
  | .text name => name == NodeKind.callApi.name || name == NodeKind.fetchOptions.name
  | _ => false

/-- The older names of a type's entries, each with its present name. -/
def renamings (type : Value) : List (String × String) :=
  match type with
  | .text name =>
    match NodeKind.ofName? name with
    | some .setData => [("dataMapping", "mapping")]
    | some .showDialog => [("dialogTitle", "title"), ("dialogMessage", "message")]
    | some .redirect => [("redirectUrl", "url"), ("redirectNewTab", "newTab")]
    | some .condition =>
      [("conditionField", "field"), ("conditionOperator", "operator"),
       ("conditionValue", "value")]
    | _ => []
  | _ => []

/-- An entry taken over from a block unless it is there. -/
def takeOver (block config : Entries Value) (key : String) : Entries Value :=
  match block.lookup key with
  | some v => if config.has key then config else config.put key v
  | none => config

/-- A configuration whose request block was dissolved. -/
def flatten (node : String) (type : Value) (config : Entries Value) : Entries Value × List Note :=
  match hasRequestBlock type, config.lookup "api" with
  | true, some (.object block) =>
    (requestKeys.foldl (takeOver block) (config.without "api"), [.flattened node])
  | _, _ => (config, [])

/-- A configuration with one older name replaced; an entry that stands under its
present name already is kept, and the older one dropped. -/
def rename (node : String) (config : Entries Value) (older present : String) :
    Entries Value × List Note :=
  match config.lookup older with
  | none => (config, [])
  | some v =>
    let rest := config.without older
    if rest.has present then (rest, [])
    else (rest.put present v, [.renamed node older present])

/-- A configuration with older names replaced one after the other. -/
def renameAll (node : String) :
    List (String × String) → Entries Value → Entries Value × List Note
  | [], config => (config, [])
  | (older, present) :: rest, config =>
    let (config, notes) := rename node config older present
    let (config, more) := renameAll node rest config
    (config, notes ++ more)

/-- A configuration with its method's name in capitals. -/
def raiseMethod (config : Entries Value) : Entries Value :=
  match config.lookup "method" with
  | some (.text name) => config.put "method" (.text (Text.upper name))
  | _ => config

/-- The configuration of a node of a type. -/
def config (node : String) (type : Value) (config : Entries Value) : Entries Value × List Note :=
  let (config, flattened) := flatten node type config
  let (config, renamed) := renameAll node (renamings type) config
  (raiseMethod config, flattened ++ renamed)

/-- The name of a node in notes. -/
def nodeName (fields : Entries Value) : String :=
  let id := (fields.lookup "id").getD .null
  if id.isMeaningful then id.shown else "?"

/-- The entries of an object, none of anything else. -/
def objectFields : Option Value → Entries Value
  | some (.object fields) => fields
  | _ => []

/-- A node; what is no object stays as it is. -/
def node : Value → Except Fault (Value × List Note)
  | .object fields =>
    match (fields.lookup "type").getD .null with
    | .list _ => .error .listType
    | .object _ => .error .objectType
    | type =>
      let (config, notes) := config (nodeName fields) type (objectFields (fields.lookup "config"))
      .ok (.object (Entries.put fields "config" (.object config)), notes)
  | v => .ok (v, [])

/-- The nodes one after the other. -/
def nodes : List Value → Except Fault (List Value × List Note)
  | [] => .ok ([], [])
  | v :: rest => do
    let (v, notes) ← node v
    let (rest, more) ← nodes rest
    .ok (v :: rest, notes ++ more)

/-- The payload in its present shape, and what was changed; without a list of
nodes nothing is. -/
def payload (fields : Entries Value) : Except Fault (Entries Value × List Note) :=
  match fields.lookup "nodes" with
  | some (.list items) => do
    let (items, notes) ← nodes items
    let fields := fields.put "nodes" (.list items)
    .ok (if fields.has "edges" then fields else fields.put "edges" (.list []), notes)
  | _ => .ok (fields, [])

end Migration

end FormAutomation.Payload
