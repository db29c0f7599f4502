import FormAutomation.Command.Arguments
import FormAutomation.Graph.Action

/-!
# Invocations

What the program is asked to do: to examine a workflow, to run it on the values
of a form, or to list the workflows to begin with.
-/

namespace FormAutomation.Command

/-- The commands. -/
inductive CommandKind where
  /-- examine a workflow -/
  | validate
  /-- run a workflow -/
  | run
  /-- list the workflows to begin with -/
  | templates
  deriving DecidableEq

namespace CommandKind

/-- The commands in the order in which they are listed. -/
def all : List CommandKind :=
  [.validate, .run, .templates]

/-- What a command is called. -/
def name : CommandKind → String
  | .validate => "validate"
  | .run => "run"
  | .templates => "templates"

/-- The command of a name. -/
def ofName? (name : String) : Option CommandKind :=
  all.find? fun kind => kind.name == name

/-- What a command does. -/
def about : CommandKind → String
  | .validate => "Report structural and configuration issues."
  | .run => "Execute a workflow against form values."
  | .templates => "List built-in starter workflows."

/-- How many words a command takes. -/
def places : CommandKind → Nat
  | .validate => 1
  | .run => 1
  | .templates => 0

end CommandKind

/-! ## Flags -/

/-- The flag that asks for help. -/
def helpFlag : Flag :=
  ⟨["-h", "--help"], .help, "show this help message and exit"⟩

/-- The flag for output as JSON. -/
def jsonFlag (about : String) : Flag :=
  ⟨["--json"], .switch, about⟩

/-- The flag for the values of the form. -/
def valuesFlag : Flag :=
  ⟨["--values"], .text, "Form values as inline JSON or a path to a JSON file."⟩

/-- The flag for what happened on the form. -/
def eventFlag : Flag :=
  ⟨["--event"], .choice ["pageLoad", "fieldChange", "formSubmit"],
    "Only start matching triggers."⟩

/-- The flag for the field that it happened to. -/
def fieldFlag : Flag :=
  ⟨["--field"], .text, "Changed field id for --event fieldChange."⟩

/-- The flag for the number of nodes that may be executed. -/
def budgetFlag : Flag :=
  ⟨["--max-steps"], .whole, "Override the step budget."⟩

/-- The flags of a command. -/
def CommandKind.flags : CommandKind → List Flag
  | .validate => [helpFlag, jsonFlag "Print issues as JSON."]
  | .run =>
    [helpFlag, valuesFlag, eventFlag, fieldFlag, budgetFlag,
      jsonFlag "Print the execution result as JSON."]
  | .templates => [helpFlag]

/-! ## Reading -/

/-- The number of nodes that may be executed, as far as a call says. -/
inductive Budget where
  /-- nothing is said of it -/
  | usual
  /-- this number -/
  | ofInt (n : Int)
  /-- it is given, but no number -/
  | empty
  deriving DecidableEq

/-- What the program is asked to do. -/
inductive Invocation where
  /-- examine the workflow of a file -/
  | validate (file : String) (json : Bool)
  /-- run the workflow of a file -/
  | run (file : String) (values : Option String) (event : Option String)
      (field : Option String) (budget : Budget) (json : Bool)
  /-- list the workflows to begin with -/
  | templates
  deriving DecidableEq

/-- The paths that an invocation may look at. -/
def Invocation.paths : Invocation → List String
  | .validate file _ => [file]
  | .run file values _ _ _ _ => file :: values.toList
  | .templates => []

/-- What the arguments of the program ask for. -/
inductive Asked where
  /-- something to do -/
  | invocation (invocation : Invocation)
  /-- help, on the program or on a command -/
  | help (command : Option CommandKind)
  /-- nothing that can be understood -/
  | fault (why : ArgumentFault)
  deriving DecidableEq

/-- The budget that was given. -/
def Given.budget (given : Given) : Budget :=
  if given.has budgetFlag.name then
    match (given.text? budgetFlag.name).bind fun text => Numeral.readInt text.toList with
    | some n => .ofInt n
    | none => .empty
  else .usual

/-- What a command is asked to do, given what was read of its arguments. -/
def CommandKind.invocation (kind : CommandKind) (given : Given) : Except ArgumentFault Invocation :=
  let json := given.has "--json"
  let file : Except ArgumentFault String :=
    match given.words with
    | word :: _ => .ok word
    | [] => .error .missingWord
  match kind with
  | .validate => file.map fun file => .validate file json
  | .run =>
    file.map fun file =>
      .run file (given.text? valuesFlag.name) (given.text? eventFlag.name)
        (given.text? fieldFlag.name) given.budget json
  | .templates => .ok .templates

/-- What the arguments after the name of a command ask for. -/
def CommandKind.asked (kind : CommandKind) (strayed : Bool) (arguments : List String) : Asked :=
  match readArguments kind.flags kind.places arguments with
  | .error .help => .help (some kind)
  | .error (.fault why) => .fault why
  | .ok given =>
    match kind.invocation given with
    | .error why => .fault why
    | .ok invocation => if strayed || given.unknown then .fault .tooMany else .invocation invocation

/-- What arguments ask for; given is whether something before them was not
understood. -/
def askedFrom (strayed : Bool) : List (Token × String) → Asked
  | [] => .fault .missingCommand
  | (.unknown, _) :: rest => askedFrom true rest
  | (.hyphens, _) :: _ => .fault .missingCommand
  | (.word name, _) :: rest =>
    match CommandKind.ofName? name with
    | some kind => kind.asked strayed (rest.map (·.2))
    | none => .fault (.unknownCommand name)
  | (.flag flag name (some value), _) :: rest =>
    match actTogether [helpFlag] {} flag name value with
    | .error .help => .help none
    | .error (.fault why) => .fault why
    | _ => askedFrom strayed rest
  | (.flag _ _ none, _) :: _ => .help none

/-- What the arguments of the program ask for. -/
def asked (arguments : List String) : Asked :=
  match tellAll [helpFlag] arguments with
  | .error why => .fault why
  | .ok tokens => askedFrom false (tokens.zip arguments)

end FormAutomation.Command
