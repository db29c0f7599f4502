import FormAutomation.Check.Graph
import FormAutomation.Command.Files
import FormAutomation.Command.Help
import FormAutomation.Graph.Strain
import FormAutomation.Network.Strain
import FormAutomation.Payload.Load
import FormAutomation.Run.Basic
import FormAutomation.Settings
import FormAutomation.Starter
import FormAutomation.Terminal.Table

/-!
# The program

The program examines workflows, runs them and lists those to begin with.  What
it prints and the status with which it ends follow from its arguments, the
environment, the files and the network; nothing else is looked at.

The status is zero when all is well, one when a workflow has errors or a run did
not succeed, and two when there was nothing to work on: a file that cannot be
read, a workflow that cannot be loaded, or values that are no object.

Some things keep the program from ending with a status.  And where a text, a path or
a response is a strain, nothing is told of how the program ends: it may do so in
any way.
-/

namespace FormAutomation.Command

/-! ## Why there is nothing to work on -/

/-- Why an invocation cannot be carried out. -/
inductive Obstacle where
  /-- the log level cannot be set -/
  | logLevel (why : LogLevel.Fault)
  /-- a file cannot be read -/
  | read (why : ReadFault)
  /-- the workflow cannot be loaded -/
  | payload (why : Payload.Fault)
  /-- the values are no JSON -/
  | values (why : Json.Fault) (text : String)
  /-- the values are JSON but no object -/
  | noObject
  /-- the budget is no number -/
  | budget (why : Value.NumberFault)
  /-- what is to be printed holds markup that cannot be shown -/
  | markup (why : Terminal.Markup.Fault)
  /-- a whole number in a text has so many digits that it is not converted -/
  | digits (count : Nat)
  /-- brackets in a text are nested so deeply that they are not followed -/
  | depth
  /-- nothing is told of what comes of this -/
  | strain (why : Strain)

namespace Obstacle

/-- The obstacle of an excess. -/
def ofExcess : Json.Excess → Obstacle
  | .digits count => .digits count
  | .depth => .depth
  | .strain why => .strain why

/-- What is said of an obstacle. -/
def message : Obstacle → String
  | .logLevel why => why.message
  | .read why => why.message
  | .payload why => why.message
  | .values why text => why.message text
  | .noObject => "Form values must be a JSON object: line 1 column 1 (char 0)"
  | .budget why => why.message
  | .markup why => why.message
  | .digits count => (Value.NumberFault.tooLong count).message
  -- which bracket is one too many depends on the calls that are under way already
  | .depth => "maximum recursion depth exceeded"
  | .strain .depth => "brackets are nested deeply"
  | .strain .half => "half of a surrogate pair is no character"
  | .strain .index => "an index has too many digits"

/-- What the program prints of an obstacle that it is prepared for. -/
def report? : Obstacle → Option String
  | .logLevel _ => none
  | .read (.file why path) => some s!"Failed to read input: {why.message path}"
  | .read _ => none
  | .payload (.migration _) => none
  | .payload why => some why.message
  | .values why text =>
    let reason := why.message text
    some s!"Failed to read input: {reason}"
  | .noObject =>
    let reason := Obstacle.message .noObject
    some s!"Failed to read input: {reason}"
  | .budget _ => none
  | .markup _ => none
  | .digits _ => none
  | .depth => none
  | .strain _ => none

end Obstacle

/-! ## What is printed -/

/-- Lines printed on a terminal of some width. -/
def printedLines (width : Nat) (texts : List String) : String :=
  String.join (texts.map (Terminal.printed width))

/-- A value printed as JSON over several lines, which are as long as they need to
be; a terminal without width shows nothing. -/
def printedJson (width : Nat) (value : Value) : String :=
  if width = 0 then "" else value.indented ++ "\n"

/-- The row of an event in the table of a run; given is its number. -/
def eventRow (index : Nat) (event : Event) : List String :=
  let detail :=
    match filled event.error?, event.branch? with
    | some error, _ => error
    | none, some branch => s!"branch={(Port.ofBranch branch).name}"
    | none, none => ""
  [toString index, event.nodeId, (filled (event.kind?.map NodeKind.name)).getD "-",
    if event.isFatal then "fatal" else event.status, detail]

/-- The table of a run. -/
def runTable (result : RunResult) : Terminal.Table where
  title :=
    let name := if result.workflow = "" then "(unnamed)" else result.workflow
    s!"Workflow {name}"
  columns := [{ heading := "#", alignment := .right }, { heading := "node" }, { heading := "type" },
    { heading := "status" }, { heading := "detail" }]
  rows := result.events.mapIdx fun i event => eventRow (i + 1) event

/-- What a run did to the form, in lines. -/
def effectLines (result : RunResult) : List String :=
  let fields := result.fieldUpdates.map fun (field, value) => s!"- {field}: {value.loose}"
  let options := result.optionUpdates.map fun (field, choices) =>
    s!"- {field}: {choices.length} option(s)"
  (if fields.isEmpty then [] else "Field updates:" :: fields)
    ++ (if options.isEmpty then [] else "Option updates:" :: options)
    ++ (match result.redirect with
      | some redirect =>
        let target := if redirect.newTab then " (new tab)" else ""
        if redirect.url = "" then [] else [s!"Redirect: {redirect.url}{target}"]
      | none => [])
    ++ (match result.dialog with
      | some dialog => [s!"Dialog: {dialog.title} - {dialog.message}"]
      | none => [])

/-- What is printed of a run. -/
def printedRun (width : Nat) (result : RunResult) : Except Obstacle String :=
  if !result.rejected.isEmpty then
    .ok (printedLines width
      ["Workflow was not executed because validation failed:", Issue.report result.rejected])
  else do
    let table ← ((runTable result).printed width).mapError .markup
    return table ++ printedLines width (effectLines result)

/-- What is printed of a run, as JSON or not. -/
def printedResult (width : Nat) (json : Bool) (result : RunResult) : Except Obstacle String :=
  if json then .ok (printedJson width result.toValue) else printedRun width result

/-- The table of the workflows to begin with. -/
def startersTable : Terminal.Table where
  title := "Workflow templates"
  columns := [{ heading := "id" }, { heading := "name" }, { heading := "description" }]
  rows := Starter.all.map fun starter => [starter.id, starter.name, starter.description]

/-! ## What is worked on -/

/-- Checks that a text does not ask too much. -/
def checkText (text : String) : Except Obstacle Unit :=
  match Json.excess? text with
  | some excess => .error (.ofExcess excess)
  | none => .ok ()

/-- Checks that there is no strain. -/
def checkStrain : Option Strain → Except Obstacle Unit
  | some why => .error (.strain why)
  | none => .ok ()

/-- The workflow of a file. -/
def readWorkflow (files : Files) (path : String) : Except Obstacle Workflow := do
  let text ← (files.text path).mapError .read
  checkText text
  (Payload.loadWorkflow (.text text)).mapError .payload

/-- The values that a text writes: a JSON object. -/
def valuesOf (text : String) : Except Obstacle (Entries Value) := do
  checkText text
  match Json.parse text with
  | .ok (.object fields) => .ok fields
  | .ok _ => .error .noObject
  | .error why => .error (.values why text)

/-- The values that an argument stands for: a JSON object, or the path of a file
that holds one. -/
def readValues (files : Files) (argument : Option String) : Except Obstacle (Entries Value) :=
  match filled argument with
  | none => .ok []
  | some argument => do
    let text? ← (files.text? argument).mapError .read
    valuesOf (text?.getD argument)

/-! ## Carrying out -/

/-- What carrying out an invocation came to. -/
structure Done where
  /-- what was printed -/
  printed : String
  /-- the status -/
  status : Nat
  /-- the requests that were sent -/
  sent : List Network.WireRequest := []

/-- The options of a run under settings, with a budget of its own or without. -/
def runOptions (settings : Settings) (budget : Budget) : Except Obstacle RunOptions := do
  let budget ← match budget with
    | .usual => pure settings.maxSteps
    | .ofInt n => pure n
    | .empty => ((Value.list []).toWhole).mapError .budget
  return RunOptions.ofNumbers budget settings.callTimeout settings.gate

/-- The client of a run under settings. -/
def client (settings : Settings) : Network.Client where
  blockPrivate := settings.blockPrivate
  timeout := settings.effectiveHttpTimeout

/-- What lies around the program. -/
structure Surroundings (σ : Type) where
  /-- the environment -/
  environment : Entries String
  /-- the files -/
  files : Files
  /-- the width of the terminal -/
  width : Nat
  /-- the network -/
  network : Network.Carrier σ
  /-- the state of the network -/
  state : σ

variable {σ : Type}

/-- Examines the workflow of a file. -/
def validate (around : Surroundings σ) (path : String) (json : Bool) : Except Obstacle Done := do
  let workflow ← readWorkflow around.files path
  let graph := workflow.toGraph
  let issues := graph.issues
  let printed :=
    if json then printedJson around.width (Issue.summary graph.isValid issues)
    else if issues.isEmpty then printedLines around.width ["No issues found."]
    else printedLines around.width [Issue.report issues]
  return { printed, status := if graph.isValid then 0 else 1 }

/-- What comes of a run with this strain, this result and these requests. -/
def finish (width : Nat) (json : Bool) (strain? : Option Strain) (result : RunResult)
    (sent : List Network.WireRequest) : Except Obstacle Done := do
  checkStrain strain?
  let printed ← printedResult width json result
  return { printed, status := if result.succeeded then 0 else 1, sent }

/-- Runs the workflow of a file. -/
def run (around : Surroundings σ) (path : String) (values : Option String)
    (event : Option FormEvent) (budget : Budget) (json : Bool) : Except Obstacle Done := do
  let workflow ← readWorkflow around.files path
  let values ← readValues around.files values
  let settings := Settings.ofEnvironment around.environment
  let options ← runOptions settings budget
  let run := workflow.run options values
    (some ((client settings).caller around.network.watched)) event ([], none, around.state)
  finish around.width json (workflow.strain?.or run.caller.2.1) run.result run.caller.1

/-- Lists the workflows to begin with. -/
def listStarters (around : Surroundings σ) : Except Obstacle Done := do
  let printed ← (startersTable.printed around.width).mapError .markup
  return { printed, status := 0 }

/-- Carries out an invocation, once the log level is set. -/
def perform (around : Surroundings σ) (invocation : Invocation) : Except Obstacle Done := do
  let _ ← (LogLevel.configured around.environment none).mapError .logLevel
  match invocation with
  | .validate path json => validate around path json
  | .run path values event field budget json =>
    let event := (filled event).map fun name => { name := some name, field : FormEvent }
    run around path values event budget json
  | .templates => listStarters around

/-- What carrying out an invocation comes to, where obstacles that the program is
prepared for are printed. -/
def conclude (around : Surroundings σ) (invocation : Invocation) : Except Obstacle Done :=
  match perform around invocation with
  | .ok done => .ok done
  | .error obstacle =>
    match obstacle.report? with
    | some report => .ok { printed := Terminal.printed around.width report, status := 2 }
    | none => .error obstacle

end FormAutomation.Command
