import FormAutomation.Text.Quoted
import FormAutomation.Text.Split
import FormAutomation.Text.Utf8

/-!
# Files

The program reads files as UTF-8.  What is known of the files is a look at them:
for a path the bytes of the file, or why it cannot be read.  Paths are brought
into one form first, in which no step stays where it is.
-/

namespace FormAutomation.Command

/-- Why a file cannot be read. -/
inductive FileFault where
  /-- there is none -/
  | missing
  /-- it may not be read -/
  | denied
  /-- a step of its path is no directory -/
  | notDirectory
  /-- it is a directory -/
  | directory
  /-- a step of its path is too long -/
  | nameTooLong
  /-- its path goes round in a circle -/
  | circle
  deriving DecidableEq

namespace FileFault

/-- The number of a fault. -/
def number : FileFault → Nat
  | .missing => 2
  | .denied => 13
  | .notDirectory => 20
  | .directory => 21
  | .nameTooLong => 36
  | .circle => 40

/-- What a fault is called. -/
def description : FileFault → String
  | .missing => "No such file or directory"
  | .denied => "Permission denied"
  | .notDirectory => "Not a directory"
  | .directory => "Is a directory"
  | .nameTooLong => "File name too long"
  | .circle => "Too many levels of symbolic links"

/-- What is said of a fault. -/
def message (fault : FileFault) (path : String) : String :=
  let shown := Text.quoted path
  s!"[Errno {fault.number}] {fault.description}: {shown}"

/-- Whether the fault shows that there is no file of the path. -/
def showsNoFile : FileFault → Bool
  | .missing => true
  | .notDirectory => true
  | .directory => true
  | .circle => true
  | .denied => false
  | .nameTooLong => false

end FileFault

/-- What a look at files shows: for a path in its one form the bytes of the
file. -/
abbrev Files := String → Except FileFault (List UInt8)

/-! ## Paths -/

/-- The steps of a path that go anywhere. -/
def pathSteps (path : String) : List (List Char) :=
  (Text.splitOn '/' path.toList).filter fun step => !step.isEmpty && step != ['.']

/-- What a path starts with: two slashes are kept, other numbers of them are
one. -/
def pathRoot (path : String) : List Char :=
  match (path.toList.takeWhile (· == '/')).length with
  | 0 => []
  | 2 => ['/', '/']
  | _ => ['/']

/-- A path in its one form. -/
def plainPath (path : String) : String :=
  match pathRoot path ++ ['/'].intercalate (pathSteps path) with
  | [] => "."
  | cs => String.ofList cs

/-- The longest step of a path, in bytes. -/
def longestStep : Nat := 255

/-- The longest path, in bytes. -/
def longestPath : Nat := 4095

/-- Whether a path is too long, or its first step is. -/
def isTooLong (path : String) : Bool :=
  longestPath < path.utf8ByteSize
    || (pathSteps path).head?.any fun step => longestStep < (String.ofList step).utf8ByteSize

/-! ## Texts -/

/-- A text with each end of a line written as one character. -/
def plainLines : List Char → List Char
  | [] => []
  | '\r' :: '\n' :: cs => '\n' :: plainLines cs
  | '\r' :: cs => '\n' :: plainLines cs
  | c :: cs => c :: plainLines cs

/-- Why there is no text of a path. -/
inductive ReadFault where
  /-- the path holds a character of zero -/
  | zeroInPath
  /-- the file cannot be read -/
  | file (why : FileFault) (path : String)
  /-- the file is no UTF-8 -/
  | encoding (why : Text.Utf8.Fault)
  deriving DecidableEq

/-- What is said of bytes that are no UTF-8. -/
def encodingMessage (fault : Text.Utf8.Fault) : String :=
  let why := fault.why.description
  if fault.width = 1 then
    let byte := String.ofList (Text.hexDigits 2 fault.byte)
    s!"'utf-8' codec can't decode byte 0x{byte} in position {fault.offset}: {why}"
  else
    let last := fault.offset + fault.width - 1
    s!"'utf-8' codec can't decode bytes in position {fault.offset}-{last}: {why}"

/-- What is said of a fault. -/
def ReadFault.message : ReadFault → String
  | .zeroInPath => "embedded null byte"
  | .file why path => why.message path
  | .encoding why => encodingMessage why

/-- The text of bytes. -/
def textOf (bytes : List UInt8) : Except ReadFault String :=
  match Text.Utf8.decode bytes with
  | .ok cs => .ok (String.ofList (plainLines cs))
  | .error why => .error (.encoding why)

/-- The text of a file. -/
def Files.text (files : Files) (path : String) : Except ReadFault String :=
  if path.toList.contains '\x00' then .error .zeroInPath
  else
    let path := plainPath path
    match files path with
    | .ok bytes => textOf bytes
    | .error why => .error (.file why path)

/-- The text of a file, if the path is that of a file. -/
def Files.text? (files : Files) (path : String) : Except ReadFault (Option String) :=
  if path.toList.contains '\x00' then .ok none
  else
    let path := plainPath path
    match files path with
    | .ok bytes => (textOf bytes).map some
    | .error why => if why.showsNoFile then .ok none else .error (.file why path)

end FormAutomation.Command
