import FormAutomation.Number.Numeral
import FormAutomation.Text.Digit
import FormAutomation.Text.Split

/-!
# Arguments

The arguments of a command are words and flags.  A flag starts with a hyphen;
its name may be shortened as long as no other flag is meant, and its value may
stand after an equals sign or be the next word.  Two hyphens alone make
everything after them words.

Arguments are told apart first, all of them, and then read from left to right; a
flag that asks for help ends the reading where it stands.
-/

namespace FormAutomation.Command

open Text

/-- What a flag does. -/
inductive FlagKind where
  /-- it asks for help -/
  | help
  /-- it is there or not -/
  | switch
  /-- it has a text -/
  | text
  /-- it has a whole number -/
  | whole
  /-- it has one of some words -/
  | choice (words : List String)
  deriving DecidableEq

/-- A flag. -/
structure Flag where
  /-- what it is called; the last is what it is known by -/
  names : List String
  /-- what it does -/
  kind : FlagKind
  /-- what is said of it -/
  about : String
  deriving DecidableEq

namespace Flag

/-- What a flag is known by. -/
def name (flag : Flag) : String :=
  flag.names.getLast?.getD ""

/-- Whether a value comes with the flag. -/
def takesValue (flag : Flag) : Bool :=
  flag.kind != .help && flag.kind != .switch

/-- Whether the value fits the flag. -/
def accepts (flag : Flag) (value : String) : Bool :=
  match flag.kind with
  | .whole => (Numeral.readInt value.toList).isSome
  | .choice words => words.contains value
  | _ => true

end Flag

/-- Why arguments cannot be read. -/
inductive ArgumentFault where
  /-- a shortened name may mean several flags -/
  | ambiguous (argument : String)
  /-- a flag has a value that takes none -/
  | unexpectedValue (flag : String)
  /-- a flag has no value that takes one -/
  | missingValue (flag : String)
  /-- a value does not fit its flag -/
  | unfitValue (flag value : String)
  /-- the command is missing -/
  | missingCommand
  /-- there is no such command -/
  | unknownCommand (name : String)
  /-- the word that a command needs is missing -/
  | missingWord
  /-- there are more arguments than the command takes -/
  | tooMany
  deriving DecidableEq

/-- What is said of a fault. -/
def ArgumentFault.message : ArgumentFault → String
  | .ambiguous argument => s!"'{argument}' may mean several options"
  | .unexpectedValue flag => s!"{flag} takes no value"
  | .missingValue flag => s!"{flag} needs a value"
  | .unfitValue flag value => s!"{flag} cannot be '{value}'"
  | .missingCommand => "a command is needed"
  | .unknownCommand name => s!"there is no command '{name}'"
  | .missingWord => "a file is needed"
  | .tooMany => "there are too many arguments"

/-- Why the reading of arguments ends early. -/
inductive Stop where
  /-- help was asked for -/
  | help
  /-- the arguments are wrong -/
  | fault (why : ArgumentFault)
  deriving DecidableEq

/-! ## Telling arguments apart -/

/-- What an argument is. -/
inductive Token where
  /-- a word -/
  | word (text : String)
  /-- two hyphens alone -/
  | hyphens
  /-- a flag, the name that was meant, and the value after an equals sign -/
  | flag (flag : Flag) (name : String) (value : Option String)
  /-- something with a hyphen that is no flag -/
  | unknown

/-- The flags of some names. -/
def named (flags : List Flag) (fits : String → Bool) : List (Flag × String) :=
  flags.flatMap fun flag => (flag.names.filter fits).map fun name => (flag, name)

/-- A text up to its first equals sign, and what follows that. -/
def splitValue (argument : String) : String × Option String :=
  match argument.toList.span (· ≠ '=') with
  | (name, _ :: value) => (String.ofList name, some (String.ofList value))
  | (_, []) => (argument, none)

/-- The flags that a shortened name may mean. -/
def meant (flags : List Flag) (argument : String) : List Token :=
  let isShort (name : String) : Bool := name.length == 2
  if argument.startsWith "--" then
    let (start, value) := splitValue argument
    (named flags fun name => name.startsWith start).map fun (flag, name) =>
      .flag flag name value
  else
    let start := String.ofList (argument.toList.take 2)
    (named flags fun name => isShort name && name == start).map (fun (flag, name) =>
        .flag flag name (some (String.ofList (argument.toList.drop 2))))
      ++ (named flags fun name => !(isShort name && name == start) && name.startsWith argument).map
        fun (flag, name) => .flag flag name none

/-- Whether the characters are digits. -/
def areDigits (cs : List Char) : Bool :=
  cs.all fun c => (digitValue? c).isSome

/-- Whether a text is a number below zero, which is no flag; a line may end after
it. -/
def isBelowZero (argument : String) : Bool :=
  match argument.toList with
  | '-' :: cs =>
    let cs := if cs.getLast? = some '\n' then cs.dropLast else cs
    match cs.span (· ≠ '.') with
    | (whole, []) => !whole.isEmpty && areDigits whole
    | (whole, _ :: part) => areDigits whole && !part.isEmpty && areDigits part
  | _ => false

/-- What an argument is that does not come after two hyphens. -/
def tell (flags : List Flag) (argument : String) : Except ArgumentFault Token :=
  if !argument.startsWith "-" then .ok (.word argument)
  else
    match named flags (· == argument) with
    | (flag, name) :: _ => .ok (.flag flag name none)
    | [] =>
      if argument = "-" then .ok (.word argument)
      else
        let (start, value) := splitValue argument
        match value, named flags (· == start) with
        | some value, (flag, name) :: _ => .ok (.flag flag name (some value))
        | _, _ =>
          match meant flags argument with
          | [token] => .ok token
          | _ :: _ :: _ => .error (.ambiguous argument)
          | [] =>
            if isBelowZero argument || argument.toList.contains ' ' then .ok (.word argument)
            else .ok .unknown

/-- What arguments are. -/
def tellAll (flags : List Flag) : List String → Except ArgumentFault (List Token)
  | [] => .ok []
  | argument :: rest =>
    if argument = "--" then .ok (.hyphens :: rest.map .word)
    else do return (← tell flags argument) :: (← tellAll flags rest)

/-! ## Reading -/

/-- What was read of the arguments of a command. -/
structure Given where
  /-- the words, in order -/
  words : List String := []
  /-- the flags with the texts that they were given, the latest first; a flag that
  takes no value has no text -/
  flags : List (String × Option String) := []
  /-- whether there was something that nothing is known of -/
  unknown : Bool := false

namespace Given

/-- The text that a flag was given, the last time that it stood there. -/
def text? (given : Given) (name : String) : Option String :=
  (given.flags.lookup name).join

/-- Whether a flag is there. -/
def has (given : Given) (name : String) : Bool :=
  (given.flags.lookup name).isSome

end Given

/-- What a flag without a value does. -/
def act (given : Given) (flag : Flag) : Except Stop Given :=
  if flag.kind = .help then .error .help
  else .ok { given with flags := (flag.name, none) :: given.flags }

/-- What a flag with a value does.  Two hyphens for a value are no text, and fit
every flag. -/
def set (given : Given) (flag : Flag) (value : String) : Except Stop Given :=
  if value = "--" then .ok { given with flags := (flag.name, none) :: given.flags }
  else if flag.accepts value then
    .ok { given with flags := (flag.name, some value) :: given.flags }
  else .error (.fault (.unfitValue flag.name value))

/-- The short flags that stand together after one hyphen. -/
def cluster (known : List Flag) (letters : String) : Option (List Flag) :=
  letters.toList.mapM fun c => known.find? fun flag => flag.names.contains (String.ofList ['-', c])

/-- What a flag does that takes no value but has one: after a short flag that is
a row of other short flags. -/
def actTogether (known : List Flag) (given : Given) (flag : Flag) (name value : String) :
    Except Stop Given :=
  match (if name.length = 2 ∧ value ≠ "" then cluster known value else none) with
  | some flags => (flag :: flags).foldlM act given
  | none => .error (.fault (.unexpectedValue name))

/-- A word taken as one that a command needs, as long as it needs any. -/
def take (places : Nat) (given : Given) (text : String) : Given :=
  if given.words.length < places then { given with words := given.words ++ [text] }
  else { given with unknown := true }

/-- Reads what arguments are, for a command that takes so many words.  Two
hyphens before a word are no part of it, nor are they at the end after one. -/
def readTokens (known : List Flag) (places : Nat) (given : Given) :
    List Token → Except Stop Given
  | [] => .ok given
  | [.word text, .hyphens] => .ok (take places given text)
  | .word text :: rest => readTokens known places (take places given text) rest
  | .hyphens :: .word text :: rest => readTokens known places (take places given text) rest
  | .hyphens :: rest => readTokens known places { given with unknown := true } rest
  | .unknown :: rest => readTokens known places { given with unknown := true } rest
  | .flag flag name (some value) :: rest => do
    let given ←
      if flag.takesValue then set given flag value else actTogether known given flag name value
    readTokens known places given rest
  | .flag flag name none :: rest =>
    if flag.takesValue then
      match rest with
      | .word value :: rest => do readTokens known places (← set given flag value) rest
      | _ => .error (.fault (.missingValue name))
    else do readTokens known places (← act given flag) rest
termination_by tokens => tokens.length

/-- The arguments of a command that takes so many words. -/
def readArguments (known : List Flag) (places : Nat) (arguments : List String) :
    Except Stop Given := do
  readTokens known places {} (← (tellAll known arguments).mapError .fault)

end FormAutomation.Command
