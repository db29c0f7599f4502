import FormAutomation.Command.Invocation
import FormAutomation.Text.Fill

/-!
# Help

The help on the program and on each command: how it is called, what it does, and
what each word and flag means.  What is said of a word or flag stands beside it
in a column of its own, or below it where it is too long.
-/

namespace FormAutomation.Command

/-- What the program is called. -/
def programName : String := "formflow"

/-- What the program does. -/
def programAbout : String := "Validate and run form workflow automation graphs."

namespace Flag

/-- What stands for the value of a flag. -/
def placeholder (flag : Flag) : String :=
  match flag.kind with
  | .choice words => "\x7b" ++ ",".intercalate words ++ "\x7d"
  | _ =>
    String.ofList ((flag.name.toList.dropWhile (· == '-')).map fun c =>
      if c = '-' then '_' else c.toUpper)

/-- A name of a flag with what stands for its value. -/
def called (flag : Flag) (name : String) : String :=
  if flag.takesValue then s!"{name} {flag.placeholder}" else name

/-- The flag among all of a call. -/
def inUsage (flag : Flag) : String :=
  s!"[{flag.called (flag.names.head?.getD flag.name)}]"

/-- The flag in the list of flags. -/
def inList (flag : Flag) : String :=
  ", ".intercalate (flag.names.map flag.called)

end Flag

/-- A line of a list: what is explained, how far it is set in, and what is said of
it. -/
structure HelpEntry where
  /-- what is explained -/
  term : String
  /-- how far it is set in -/
  indent : Nat
  /-- what is said of it; nothing for a heading -/
  about : String

/-- A page of help. -/
structure HelpPage where
  /-- what is called -/
  call : String
  /-- the flags of the call -/
  options : List String
  /-- the words of the call -/
  words : List String
  /-- what it does, if that is said -/
  about : String
  /-- the lists, each with its title -/
  lists : List (String × List HelpEntry)

namespace HelpPage

/-- The list of flags. -/
def optionList (flags : List Flag) : String × List HelpEntry :=
  ("options", flags.map fun flag => ⟨flag.inList, 2, flag.about⟩)

/-- The help on the program. -/
def ofProgram : HelpPage :=
  let commands := "\x7b" ++ ",".intercalate (CommandKind.all.map CommandKind.name) ++ "\x7d"
  { call := programName
    options := [helpFlag.inUsage]
    words := [commands, "..."]
    about := programAbout
    lists :=
      [("positional arguments",
          ⟨commands, 2, ""⟩ :: CommandKind.all.map fun kind => ⟨kind.name, 4, kind.about⟩),
        optionList [helpFlag]] }

/-- The help on a command. -/
def ofCommand (kind : CommandKind) : HelpPage :=
  let words := if kind.places = 0 then [] else ["graph"]
  { call := s!"{programName} {kind.name}"
    options := kind.flags.map Flag.inUsage
    words
    about := ""
    lists :=
      (if words.isEmpty then []
        else [("positional arguments",
          words.map fun word => ⟨word, 2, "Path to a workflow JSON file."⟩)])
        ++ [optionList kind.flags] }

/-! ## Pages as text -/

/-- Blanks. -/
def blanks (n : Nat) : String :=
  String.ofList (List.replicate n ' ')

/-- Parts in lines of a width that are set in; given is what stands in the line so
far.  A part stands in its line alone where it is too long for any. -/
def rows (width indent : Nat) (line : List String) : List String → List String
  | [] => if line.isEmpty then [] else [blanks indent ++ " ".intercalate line]
  | part :: rest =>
    if line.isEmpty || indent + (" ".intercalate (line ++ [part])).length ≤ width then
      rows width indent (line ++ [part]) rest
    else (blanks indent ++ " ".intercalate line) :: rows width indent [part] rest

/-- How the page's subject is called, in lines of a width.  Where the subject takes
at most three quarters of the width the parts stand to the right of it, the flags
before the words; else they stand below it. -/
def usage (page : HelpPage) (width : Nat) : List String :=
  let label := "usage: "
  let lead := label ++ page.call
  let whole := " ".intercalate (lead :: (page.options ++ page.words))
  if whole.length ≤ width then [whole]
  else if 4 * lead.length ≤ 3 * width then
    let indent := lead.length + 1
    match rows width indent [] page.options with
    | [] => [lead]
    | first :: rest =>
      let first := lead ++ first.drop lead.length
      first :: rest ++ rows width indent [] page.words
  else
    let indent := label.length
    let parts := match rows width indent [] (page.options ++ page.words) with
      | [line] => [line]
      | _ => rows width indent [] page.options ++ rows width indent [] page.words
    lead :: parts

/-- The column in which the explanations of a page stand. -/
def column (page : HelpPage) (width : Nat) : Nat :=
  let entries := page.lists.flatMap (·.2)
  min ((entries.map fun entry => entry.term.length + 2).foldl max 0 + 2)
    (min 24 (max (width - 20) 4))

/-- An entry in lines of a width. -/
def entryLines (column width : Nat) (entry : HelpEntry) : List String :=
  let term := blanks entry.indent ++ entry.term
  if entry.about = "" then [term]
  else
    let about := Text.fill (max (width - column) 11) entry.about
    let set := about.map (blanks column ++ ·)
    if term.length + 2 ≤ column then
      match about with
      | first :: _ => (term ++ blanks (column - term.length) ++ first) :: set.drop 1
      | [] => [term]
    else term :: set

/-- The width that a terminal is taken to have that tells none. -/
def usualWidth : Nat := 80

/-- The page as a text on a terminal of some width, which stays two columns away
from its edge. -/
def toText (page : HelpPage) (terminal : Nat) : String :=
  let width := (if terminal = 0 then usualWidth else terminal) - 2
  let column := page.column width
  let list (entries : String × List HelpEntry) : List String :=
    s!"{entries.1}:" :: entries.2.flatMap (entryLines column width)
  let blocks := [page.usage width]
    ++ (if page.about = "" then [] else [Text.fill (max width 11) page.about])
    ++ page.lists.map list
  "\n\n".intercalate (blocks.map ("\n".intercalate ·)) ++ "\n"

end HelpPage

/-- The help on the program or on a command. -/
def help : Option CommandKind → HelpPage
  | none => HelpPage.ofProgram
  | some kind => HelpPage.ofCommand kind

end FormAutomation.Command
