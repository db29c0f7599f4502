import FormAutomation.Command.Basic

/-!
# The command line

The outer layer: it takes the arguments, the variables and the files that an
invocation looks at, has the invocation carried out, and prints what comes of
it.  It has no network: no name stands for an address here, and no request can
be sent.
-/

namespace FormAutomation.Main

open Command

/-- Why a file could not be read. -/
def fileFault : IO.Error → FileFault
  | .permissionDenied .. => .denied
  | .inappropriateType _ code _ => if code = 20 then .notDirectory else .directory
  | .invalidArgument .. => .nameTooLong
  | .resourceExhausted .. => .nameTooLong
  | .otherError code _ => if code = 40 then .circle else .missing
  | _ => .missing

/-- A look at a file. -/
def look (path : String) : IO (Except FileFault (List UInt8)) := do
  if isTooLong path then return .error .nameTooLong
  try
    return .ok (← IO.FS.readBinFile path).toList
  catch error => return .error (fileFault error)

/-- A look at the files that an invocation may need. -/
def lookAt (invocation : Invocation) : IO Files := do
  let seen ← invocation.paths.mapM fun path => do
    let path := plainPath path
    return (path, ← look path)
  return fun path => (seen.lookup path).getD (.error .missing)

/-- The variables that are set. -/
def environment (names : List String) : IO (Entries String) := do
  let found ← names.mapM fun name => do
    return (← IO.getEnv name).map fun value => (name, value)
  return found.filterMap id

/-- No network. -/
def offline : Network.Carrier Unit where
  resolve _ _ _ := (.error "There is no network.", ())
  send _ _ _ := (.error (.failed "There is no network."), ())

/-- The width of the terminal. -/
def terminalWidth : IO Nat := do
  return ((← IO.getEnv "COLUMNS").bind String.toNat?).getD 80

/-- Carries out an invocation and prints what comes of it; the status is that of
the program. -/
def carryOut (invocation : Invocation) : IO UInt32 := do
  let around : Surroundings Unit :=
    { environment := ← environment Settings.variableNames
      files := ← lookAt invocation
      width := ← terminalWidth
      network := offline
      state := () }
  match conclude around invocation with
  | .ok done =>
    IO.print done.printed
    return UInt32.ofNat done.status
  | .error obstacle =>
    IO.eprintln obstacle.message
    return 1

/-- Does what the arguments ask for. -/
def answer (arguments : List String) : IO UInt32 := do
  match asked arguments with
  | .invocation invocation => carryOut invocation
  | .help command =>
    IO.print ((help command).toText (← terminalWidth))
    return 0
  | .fault why =>
    IO.eprintln s!"{programName}: error: {why.message}"
    return 2

end FormAutomation.Main

/-- The program. -/
def main (arguments : List String) : IO UInt32 :=
  FormAutomation.Main.answer arguments
