import FormAutomation.Run.Options
import FormAutomation.Text.Blank
import FormAutomation.Text.Case

/-!
# Settings

Settings come from the environment.  A variable that is missing, empty or cannot
be read as what it should be leaves the default in force, so every environment
gives settings.
-/

namespace FormAutomation

/-- The settings. -/
structure Settings where
  /-- how many nodes a run may execute -/
  maxSteps : Int
  /-- how many seconds a call of a run may take -/
  callTimeout : Binary64
  /-- how many seconds an exchange over the network may take -/
  httpTimeout : Binary64
  /-- whether graphs that are not valid are refused -/
  gate : Bool
  /-- whether requests to internal hosts are refused -/
  blockPrivate : Bool
  /-- the name of the log level -/
  logLevel : String

namespace Settings

/-- A variable that says something. -/
def said (environment : Entries String) (name : String) : Option String :=
  (environment.lookup name).filter (· ≠ "")

/-- A whole number. -/
def whole (environment : Entries String) (name : String) (default : Int) : Int :=
  ((said environment name).bind (Numeral.readInt ·.toList)).getD default

/-- A number. -/
def number (environment : Entries String) (name : String) (default : Binary64) : Binary64 :=
  ((said environment name).bind (Numeral.readDouble ·.toList)).getD default

/-- The words for true. -/
def trueWords : List String := ["1", "true", "yes", "on"]

/-- The words for false. -/
def falseWords : List String := ["0", "false", "no", "off"]

/-- A truth value, in any letter case and with white space around it. -/
def truth (environment : Entries String) (name : String) (default : Bool) : Bool :=
  match environment.lookup name with
  | none => default
  | some text =>
    let word := Text.lower (Text.trim text)
    if trueWords.contains word then true
    else if falseWords.contains word then false
    else default

/-- The names of the variables that settings are read from. -/
def variableNames : List String :=
  ["FORMFLOW_MAX_STEPS", "FORMFLOW_CALL_TIMEOUT_SECONDS", "FORMFLOW_HTTP_TIMEOUT_SECONDS",
   "FORMFLOW_GATE_ON_VALIDATION", "FORMFLOW_BLOCK_PRIVATE_HOSTS", "LOG_LEVEL"]

/-- The settings that an environment gives. -/
def ofEnvironment (environment : Entries String) : Settings where
  maxSteps := max 1 (whole environment "FORMFLOW_MAX_STEPS" 100)
  callTimeout := number environment "FORMFLOW_CALL_TIMEOUT_SECONDS" (.ofNat 30)
  httpTimeout := number environment "FORMFLOW_HTTP_TIMEOUT_SECONDS" (.ofNat 20)
  gate := truth environment "FORMFLOW_GATE_ON_VALIDATION" false
  blockPrivate := truth environment "FORMFLOW_BLOCK_PRIVATE_HOSTS" true
  logLevel := Text.upper ((environment.lookup "LOG_LEVEL").getD "INFO")

/-- What the settings say of runs. -/
def runEntries (settings : Settings) : Entries Value :=
  [(RunOptions.budgetName, .int settings.maxSteps),
   (RunOptions.timeoutName, .float settings.callTimeout),
   (RunOptions.gateName, .bool settings.gate)]

/-- The options of a run under the settings, some of them given otherwise. -/
def runOptions (settings : Settings) (given : Entries Value) :
    Except Value.NumberFault RunOptions :=
  RunOptions.ofEntries settings.runEntries given

/-- How long an exchange over the network may take: at least a second. -/
def effectiveHttpTimeout (settings : Settings) : Binary64 :=
  (Binary64.ofNat 1).atLeast settings.httpTimeout

end Settings

/-! ## Log levels -/

namespace LogLevel

/-- Names that are taken by something else than a level. -/
inductive Fault where
  /-- by the usual layout of a line -/
  | layout
  /-- by the manners in which layouts are written -/
  | manners
  deriving DecidableEq

/-- What is said of a fault. -/
def Fault.message : Fault → String
  | .layout => "Unknown level: '%(levelname)s:%(name)s:%(message)s'"
  | .manners =>
    "Level not an integer or a valid string: \x7b"
      ++ "'%': (<class 'logging.PercentStyle'>, '%(levelname)s:%(name)s:%(message)s'), "
      ++ "'\x7b': (<class 'logging.StrFormatStyle'>, "
      ++ "'\x7blevelname\x7d:\x7bname\x7d:\x7bmessage\x7d'), "
      ++ "'$': (<class 'logging.StringTemplateStyle'>, "
      ++ "'$\x7blevelname\x7d:$\x7bname\x7d:$\x7bmessage\x7d')\x7d"

/-- The names that are taken. -/
def taken : List (String × Fault) :=
  [("BASIC_FORMAT", .layout), ("_STYLES", .manners)]

/-- The numbers of the level names. -/
def numbers : List (String × Nat) :=
  [("CRITICAL", 50), ("FATAL", 50), ("ERROR", 40), ("WARNING", 30), ("WARN", 30), ("INFO", 20),
   ("DEBUG", 10), ("NOTSET", 0)]

/-- The level at which the network library is kept quiet. -/
def quiet : Nat := 30

/-- The level of a name, or of the environment when no name is given; a name
that is unknown means the level of information. -/
def configured (environment : Entries String) (name : Option String) : Except Fault Nat :=
  let name := (name.filter (· ≠ "")).getD ((environment.lookup "LOG_LEVEL").getD "INFO")
  match taken.lookup (Text.upper name) with
  | some why => .error why
  | none => .ok ((numbers.lookup (Text.upper name)).getD 20)

end LogLevel

end FormAutomation
